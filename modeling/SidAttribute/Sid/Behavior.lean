/-! Names of SRv6 endpoint behaviors, as the registry of segment routing allocates them. -/
namespace SidAttribute.Sid

def behaviors : List (Nat × String) := [
  (0, "Reserved"),
  (1, "End"),
  (2, "End with PSP"),
  (3, "End with USP"),
  (4, "End with PSP & USP"),
  (5, "End.X"),
  (6, "End.X with PSP"),
  (7, "End.X with USP"),
  (8, "End.X with PSP & USP"),
  (9, "End.T"),
  (10, "End.T with PSP"),
  (11, "End.T with USP"),
  (12, "End.T with PSP & USP"),
  (13, "End.B6.Insert"),
  (14, "End.B6.Encaps"),
  (15, "End.BM"),
  (16, "End.DX6"),
  (17, "End.DX4"),
  (18, "End.DT6"),
  (19, "End.DT4"),
  (20, "End.DT46"),
  (21, "End.DX2"),
  (22, "End.DX2V"),
  (23, "End.DT2U"),
  (24, "End.DT2M"),
  (25, "Reserved"),
  (26, "End.B6.Insert.Red"),
  (27, "End.B6.Encaps.Red"),
  (28, "End with USD"),
  (29, "End with PSP & USD"),
  (30, "End with USP & USD"),
  (31, "End with PSP, USP & USD"),
  (32, "End.X with USD"),
  (33, "End.X with PSP & USD"),
  (34, "End.X with USP & USD"),
  (35, "End.X with PSP, USP & USD"),
  (36, "End.T with USD"),
  (37, "End.T with PSP & USD"),
  (38, "End.T with USP & USD"),
  (39, "End.T with PSP, USP & USD"),
  (40, "End.MAP"),
  (41, "End.Limit"),
  (42, "End with NEXT-ONLY-CSID"),
  (43, "End with NEXT-CSID"),
  (44, "End with NEXT-CSID & PSP"),
  (45, "End with NEXT-CSID & USP"),
  (46, "End with NEXT-CSID, PSP & USP"),
  (47, "End with NEXT-CSID & USD"),
  (48, "End with NEXT-CSID, PSP & USD"),
  (49, "End with NEXT-CSID, USP & USD"),
  (50, "End with NEXT-CSID, PSP, USP & USD"),
  (51, "End.X with NEXT-ONLY-CSID"),
  (52, "End.X with NEXT-CSID"),
  (53, "End.X with NEXT-CSID & PSP"),
  (54, "End.X with NEXT-CSID & USP"),
  (55, "End.X with NEXT-CSID, PSP & USP"),
  (56, "End.X with NEXT-CSID & USD"),
  (57, "End.X with NEXT-CSID, PSP & USD"),
  (58, "End.X with NEXT-CSID, USP & USD"),
  (59, "End.X with NEXT-CSID, PSP, USP & USD"),
  (60, "End.DX6 with NEXT-CSID"),
  (61, "End.DX4 with NEXT-CSID"),
  (62, "End.DT6 with NEXT-CSID"),
  (63, "End.DT4 with NEXT-CSID"),
  (64, "End.DT46 with NEXT-CSID"),
  (65, "End.DX2 with NEXT-CSID"),
  (66, "End.DX2V with NEXT-CSID"),
  (67, "End.DT2U with NEXT-CSID"),
  (68, "End.DT2M with NEXT-CSID"),
  (69, "End.M.GTP6.D"),
  (70, "End.M.GTP6.Di"),
  (71, "End.M.GTP6.E"),
  (72, "End.M.GTP4.E"),
  (73, "End.DTM"),
  (74, "End.M (Mirror SID)"),
  (75, "End.Replicate"),
  (76, "End.DTMC4"),
  (77, "End.DTMC6"),
  (78, "End.DTMC46"),
  (79, "End.BXC"),
  (80, "End.BXC with PSP"),
  (81, "End.BXC with USP"),
  (82, "End.BXC with USD"),
  (83, "End.BXC with PSP, USP & USD"),
  (100, "End.PSID"),
  (101, "End with REPLACE-CSID"),
  (102, "End with REPLACE-CSID & PSP"),
  (103, "End with REPLACE-CSID & USP"),
  (104, "End with REPLACE-CSID, PSP & USP"),
  (105, "End.X with REPLACE-CSID"),
  (106, "End.X with REPLACE-CSID & PSP"),
  (107, "End.X with REPLACE-CSID & USP"),
  (108, "End.X with REPLACE-CSID, PSP & USP"),
  (109, "End.T with COC"),
  (110, "End.T with PSP&COC"),
  (112, "End.T with PSP&USP&COC"),
  (128, "End with REPLACE-CSID & USD"),
  (129, "End with REPLACE-CSID, USP & USD"),
  (130, "End with REPLACE-CSID, PSP & USD"),
  (131, "End with REPLACE-CSID, PSP, USP & USD"),
  (132, "End.X with REPLACE-CSID & USD"),
  (133, "End.X with REPLACE-CSID, PSP & USD"),
  (134, "End.X with REPLACE-CSID, USP & USD"),
  (135, "End.X with REPLACE-CSID, PSP, USP & USD"),
  (137, "End.T with PSP&USD&COC"),
  (139, "End.T with PSP&USP&USD&COC"),
  (150, "End.XU"),
  (151, "End.XU with PSP"),
  (152, "End.XU with USP"),
  (153, "End.XU with USD"),
  (154, "End.XU with PSP, USP & USD"),
  (155, "End.XU with REPLACE-CSID"),
  (156, "End.XU with REPLACE-CSID & PSP"),
  (157, "End.XU with REPLACE-CSID & PSP & USP & USD"),
  (32767, "The SID defined in [RFC8754]"),
  (65535, "Opaque")]

def behaviorName (code : Int) : String :=
  match behaviors.find? fun row => (row.1 : Int) == code with
  | some row => row.2
  | none =>
    if 32768 ≤ code ∧ code ≤ 34815 then "Reserved for Private Use"
    else if 34816 ≤ code ∧ code ≤ 65534 then "Reserved"
    else "Unassigned"

end SidAttribute.Sid
