/-!
# Type tags

The closed set of tags that objects carry. A class also stores the tag that its
instances receive.
-/

namespace Metamodel

/-- The kind of value an object stands for. -/
inductive TypeTag where
  | object
  | classTag
  | moduleTag
  | string
  | symbol
  | integer
  | float
  | array
  | hash
  | range
  | proc
  | exception
  | encoding
  | io
  | enumerator
  deriving DecidableEq, Inhabited

namespace TypeTag

/-- Every tag, in declaration order. -/
def all : List TypeTag :=
  [object, classTag, moduleTag, string, symbol, integer, float, array, hash, range, proc,
    exception, encoding, io, enumerator]

/-- The name of a tag, as programs and messages write it. -/
def name : TypeTag → String
  | object => "Object"
  | classTag => "Class"
  | moduleTag => "Module"
  | string => "String"
  | symbol => "Symbol"
  | integer => "Integer"
  | float => "Float"
  | array => "Array"
  | hash => "Hash"
  | range => "Range"
  | proc => "Proc"
  | exception => "Exception"
  | encoding => "Encoding"
  | io => "Io"
  | enumerator => "Enumerator"

/-- The tag with the given name. -/
def ofName? (text : String) : Option TypeTag :=
  all.find? fun tag => tag.name == text

theorem mem_all (tag : TypeTag) : tag ∈ all := by
  cases tag <;> decide

theorem ofName?_name (tag : TypeTag) : ofName? tag.name = some tag := by
  cases tag <;> decide

end TypeTag

end Metamodel
