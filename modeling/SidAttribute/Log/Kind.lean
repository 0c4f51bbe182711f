import SidAttribute.Text.Line
import SidAttribute.Value

/-! The kinds of values and of all that a value can be asked for: kinds themselves, their methods and
attributes, rows. A kind is a special case of the kinds further down its line; it has its own features
and theirs, and its own come first. -/
namespace SidAttribute.Log
open Text

inductive Kind where
  | null
  | bool
  | int
  | text
  | list
  | tree
  | row
  | kind
  | object
  | function
  | wrapper
  | method
  | slot
  | attribute
  | alias
  deriving DecidableEq, Repr

inductive Feature where
  | method
  | slot
  | attribute
  | kindMethod
  | nothing
  deriving DecidableEq, Repr

namespace Kind

def name : Kind → String
  | .null => "NoneType"
  | .bool => "bool"
  | .int => "int"
  | .text => "str"
  | .list => "list"
  | .tree => "dict"
  | .row => "tuple"
  | .kind => "type"
  | .object => "object"
  | .function => "builtin_function_or_method"
  | .wrapper => "method-wrapper"
  | .method => "method_descriptor"
  | .slot => "wrapper_descriptor"
  | .attribute => "getset_descriptor"
  | .alias => "GenericAlias"

def group : Kind → String
  | .alias => "types"
  | _ => "builtins"

def fullName : Kind → String
  | .alias => "types.GenericAlias"
  | k => k.name

def base? : Kind → Option Kind
  | .object => none
  | .bool => some .int
  | _ => some .object

def line : Kind → List Kind
  | .object => [.object]
  | .bool => [.bool, .int, .object]
  | k => [k, .object]

def shown (k : Kind) : String := "<class '" ++ k.fullName ++ "'>"

def ofValue : Value → Kind
  | .null => .null
  | .bool _ => .bool
  | .int _ => .int
  | .text _ => .text
  | .list _ => .list
  | .tree _ => .tree

def features : Kind → List (Feature × String)
  | .object =>
    [(.kindMethod, "__new__ __init_subclass__ __subclasshook__"),
      (.slot, "__delattr__ __eq__ __ge__ __getattribute__ __gt__ __hash__ __init__ __le__ __lt__ " ++
        "__ne__ __repr__ __setattr__ __str__"),
      (.method, "__dir__ __format__ __getstate__ __reduce__ __reduce_ex__ __sizeof__")]
  | .null => [(.kindMethod, "__new__"), (.slot, "__bool__ __repr__")]
  | .bool =>
    [(.kindMethod, "__new__"),
      (.slot, "__and__ __or__ __rand__ __repr__ __ror__ __rxor__ __xor__")]
  | .int =>
    [(.kindMethod, "__new__ from_bytes"),
      (.slot, "__abs__ __add__ __and__ __bool__ __divmod__ __eq__ __float__ __floordiv__ __ge__ " ++
        "__getattribute__ __gt__ __hash__ __index__ __int__ __invert__ __le__ __lshift__ __lt__ " ++
        "__mod__ __mul__ __ne__ __neg__ __or__ __pos__ __pow__ __radd__ __rand__ __rdivmod__ " ++
        "__repr__ __rfloordiv__ __rlshift__ __rmod__ __rmul__ __ror__ __rpow__ __rrshift__ " ++
        "__rshift__ __rsub__ __rtruediv__ __rxor__ __sub__ __truediv__ __xor__"),
      (.method, "__ceil__ __floor__ __format__ __getnewargs__ __round__ __sizeof__ __trunc__ " ++
        "as_integer_ratio bit_count bit_length conjugate to_bytes"),
      (.attribute, "denominator imag numerator real")]
  | .text =>
    [(.kindMethod, "__new__ maketrans"),
      (.slot, "__add__ __contains__ __eq__ __ge__ __getattribute__ __getitem__ __gt__ __hash__ " ++
        "__iter__ __le__ __len__ __lt__ __mod__ __mul__ __ne__ __repr__ __rmod__ __rmul__ __str__"),
      (.method, "__format__ __getnewargs__ __sizeof__ capitalize casefold center count encode " ++
        "endswith expandtabs find format format_map index isalnum isalpha isascii isdecimal " ++
        "isdigit isidentifier islower isnumeric isprintable isspace istitle isupper join ljust " ++
        "lower lstrip partition removeprefix removesuffix replace rfind rindex rjust rpartition " ++
        "rsplit rstrip split splitlines startswith strip swapcase title translate upper zfill")]
  | .list =>
    [(.kindMethod, "__new__ __class_getitem__"),
      (.slot, "__add__ __contains__ __delitem__ __eq__ __ge__ __getattribute__ __gt__ __iadd__ " ++
        "__imul__ __init__ __iter__ __le__ __len__ __lt__ __mul__ __ne__ __repr__ __rmul__ " ++
        "__setitem__"),
      (.method, "__getitem__ __reversed__ __sizeof__ append clear copy count extend index insert " ++
        "pop remove reverse sort"),
      (.nothing, "__hash__")]
  | .tree =>
    [(.kindMethod, "__new__ __class_getitem__ fromkeys"),
      (.slot, "__delitem__ __eq__ __ge__ __getattribute__ __gt__ __init__ __ior__ __iter__ __le__ " ++
        "__len__ __lt__ __ne__ __or__ __repr__ __ror__ __setitem__"),
      (.method, "__contains__ __getitem__ __reversed__ __sizeof__ clear copy get items keys pop " ++
        "popitem setdefault update values"),
      (.nothing, "__hash__")]
  | .row =>
    [(.kindMethod, "__new__ __class_getitem__"),
      (.slot, "__add__ __contains__ __eq__ __ge__ __getattribute__ __getitem__ __gt__ __hash__ " ++
        "__iter__ __le__ __len__ __lt__ __mul__ __ne__ __repr__ __rmul__"),
      (.method, "__getnewargs__ count index")]
  | .kind =>
    [(.kindMethod, "__new__ __prepare__"),
      (.slot, "__call__ __delattr__ __getattribute__ __init__ __or__ __repr__ __ror__ __setattr__"),
      (.method, "__dir__ __instancecheck__ __sizeof__ __subclasscheck__ __subclasses__ mro")]
  | .function =>
    [(.slot, "__call__ __eq__ __ge__ __getattribute__ __gt__ __hash__ __le__ __lt__ __ne__ __repr__"),
      (.method, "__reduce__"), (.attribute, "__self__")]
  | .wrapper =>
    [(.slot, "__call__ __eq__ __ge__ __getattribute__ __gt__ __hash__ __le__ __lt__ __ne__ __repr__"),
      (.method, "__reduce__"), (.attribute, "__objclass__")]
  | .method => [(.slot, "__call__ __get__ __getattribute__ __repr__"), (.method, "__reduce__")]
  | .slot => [(.slot, "__call__ __get__ __getattribute__ __repr__"), (.method, "__reduce__")]
  | .attribute => [(.slot, "__delete__ __get__ __getattribute__ __repr__ __set__")]
  | .alias =>
    [(.kindMethod, "__new__"),
      (.slot, "__call__ __eq__ __ge__ __getattribute__ __getitem__ __gt__ __hash__ __iter__ " ++
        "__le__ __lt__ __ne__ __or__ __repr__ __ror__"),
      (.method, "__dir__ __instancecheck__ __mro_entries__ __reduce__ __subclasscheck__")]

def ownFeature? (k : Kind) (name : String) : Option Feature :=
  (k.features.find? fun row => (pieces ' ' row.2.toList).contains name.toList).map Prod.fst

def feature? (k : Kind) (name : String) : Option (Kind × Feature) :=
  k.line.findSome? fun home => (home.ownFeature? name).map fun f => (home, f)

def isNarrowed (k : Kind) : Bool :=
  k == .kind || (k.ownFeature? "__class_getitem__").isSome

def about : Kind → Option String
  | .object => some ("The base class of the class hierarchy.\n\nWhen called, it accepts no arguments " ++
      "and returns a new featureless\ninstance that has no instance attributes and cannot be given " ++
      "any.\n")
  | .bool => some ("bool(x) -> bool\n\nReturns True when the argument x is true, False " ++
      "otherwise.\nThe builtins True and False are the only two instances of the class bool.\n" ++
      "The class bool is a subclass of the class int, and cannot be subclassed.")
  | .int => some ("int([x]) -> integer\nint(x, base=10) -> integer\n\nConvert a number or string to " ++
      "an integer, or return 0 if no arguments\nare given.  If x is a number, return " ++
      "x.__int__().  For floating point\nnumbers, this truncates towards zero.\n\nIf x is not a " ++
      "number or if base is given, then x must be a string,\nbytes, or bytearray instance " ++
      "representing an integer literal in the\ngiven base.  The literal can be preceded by '+' " ++
      "or '-' and be surrounded\nby whitespace.  The base defaults to 10.  Valid bases are 0 " ++
      "and 2-36.\nBase 0 means to interpret the base from the string as an integer literal.\n" ++
      ">>> int('0b100', base=0)\n4")
  | .text => some ("str(object='') -> str\nstr(bytes_or_buffer[, encoding[, errors]]) -> str\n\n" ++
      "Create a new string object from the given object. If encoding or\nerrors is specified, " ++
      "then the object must expose a data buffer\nthat will be decoded using the given encoding " ++
      "and error handler.\nOtherwise, returns the result of object.__str__() (if defined)\nor " ++
      "repr(object).\nencoding defaults to sys.getdefaultencoding().\nerrors defaults to 'strict'.")
  | .list => some ("Built-in mutable sequence.\n\nIf no argument is given, the constructor creates " ++
      "a new empty list.\nThe argument must be an iterable if specified.")
  | .tree => some ("dict() -> new empty dictionary\ndict(mapping) -> new dictionary initialized " ++
      "from a mapping object's\n    (key, value) pairs\ndict(iterable) -> new dictionary " ++
      "initialized as if via:\n    d = \x7b\x7d\n    for k, v in iterable:\n        d[k] = v\n" ++
      "dict(**kwargs) -> new dictionary initialized with the name=value pairs\n    in the keyword " ++
      "argument list.  For example:  dict(one=1, two=2)")
  | .row => some ("Built-in immutable sequence.\n\nIf no argument is given, the constructor returns " ++
      "an empty tuple.\nIf iterable is specified the tuple is initialized from iterable's items." ++
      "\n\nIf the argument is a tuple, the return value is the same object.")
  | .kind => some "type(object) -> the object's type\ntype(name, bases, dict, **kwds) -> a new type"
  | _ => none

end Kind
end SidAttribute.Log
