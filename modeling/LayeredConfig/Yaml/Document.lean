/-!
# YAML documents

A YAML text read into a tree. A mapping keeps its entries in the order of the text, and its keys may
be any documents. `same` is the equality by which a mapping must not have a key twice: numbers are
compared within their form, mappings without regard to order.
-/

namespace LayeredConfig

/-- A YAML number. -/
inductive Yaml.Number where
  | unsigned (value : UInt64)
  | negative (value : Int64)
  | real (value : Float)

/-- A YAML document. -/
inductive Yaml where
  | null
  | bool (value : Bool)
  | number (value : Yaml.Number)
  | string (value : String)
  | sequence (items : List Yaml)
  | mapping (entries : List (Yaml × Yaml))
  | tagged (tag : String) (value : Yaml)

namespace Yaml

instance : Inhabited Yaml := ⟨null⟩

/-- Whether two numbers are equal; every float that is no number equals every other one. -/
def Number.same : Number → Number → Bool
  | unsigned a, unsigned b => a == b
  | negative a, negative b => a == b
  | real a, real b => a == b || (a.isNaN && b.isNaN)
  | _, _ => false

mutual

/-- Whether two documents are equal. -/
def same : Yaml → Yaml → Bool
  | null, null => true
  | bool a, bool b => a == b
  | number a, number b => a.same b
  | string a, string b => a == b
  | sequence a, sequence b => sameItems a b
  | mapping a, mapping b => a.length == b.length && includedIn a b
  | tagged s a, tagged t b => s == t && a.same b
  | _, _ => false

/-- Whether two sequences are equal item by item. -/
def sameItems : List Yaml → List Yaml → Bool
  | [], [] => true
  | a :: as, b :: bs => a.same b && sameItems as bs
  | _, _ => false

/-- Whether every entry of the first mapping has an equal one in the second. -/
def includedIn : List (Yaml × Yaml) → List (Yaml × Yaml) → Bool
  | [], _ => true
  | (k, a) :: es, other =>
    other.any (fun entry => k.same entry.1 && a.same entry.2) && includedIn es other

end

end Yaml

end LayeredConfig
