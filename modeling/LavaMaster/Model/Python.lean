import Mathlib.Data.List.Basic

/-!
# The fragment of Python the dispatcher master relies on

Exceptions are data: every operation that can raise returns `Except PyError`, and the
handlers of `dispatcher-master.py` catch or propagate them as the source does. Strings
are inspected through their character lists, so that every operation below is
structurally recursive and evaluates in the kernel.

`yaml.load` builds Python values; `Yaml` keeps what the master inspects of them:
mappings with their string keys, strings, integers and sequences.
-/

namespace LavaMaster

/-- The exceptions the master raises, catches or lets escape. `operationalError`
stands for Django's `OperationalError` and `InterfaceError` alike: `handle()` catches
both in one clause. -/
inductive PyError where
  | operationalError
  | doesNotExist
  | attributeError
  | typeError
  | valueError
  | keyError
  | indexError
  | ioError (filename strerror : String)
  | yamlError (problem : String)
  | templateNotFound (message : String)
  | templateSyntaxError (name : String) (lineno : Nat) (message : String)
  deriving DecidableEq, Repr

/-- A Python value built by `yaml.load`. -/
inductive Yaml where
  | null
  | int (n : Int)
  | str (s : String)
  | seq (items : List Yaml)
  | map (entries : List (String × Yaml))
  deriving Inhabited

namespace Yaml

/-- `d[key] = v` on a dict: replace the entry in place, or add it at the end. -/
def setEntry : List (String × Yaml) → String → Yaml → List (String × Yaml)
  | [], key, v => [(key, v)]
  | (k, w) :: rest, key, v => if k = key then (key, v) :: rest else (k, w) :: setEntry rest key v

/-- `value[key]`: a dict raises `KeyError` on a missing key, every other value
raises `TypeError` when subscripted by a string. -/
def getItem : Yaml → String → Except PyError Yaml
  | map entries, key => match entries.lookup key with
    | some v => .ok v
    | none => .error .keyError
  | _, _ => .error .typeError

/-- `value.get(key, default)`: only a dict has a `get` method. -/
def get : Yaml → String → Yaml → Except PyError Yaml
  | map entries, key, d => .ok ((entries.lookup key).getD d)
  | _, _, _ => .error .attributeError

/-- `value[key] = v`: only a dict supports item assignment by a string. -/
def setItem : Yaml → String → Yaml → Except PyError Yaml
  | map entries, key, v => .ok (map (setEntry entries key v))
  | _, _, _ => .error .typeError

/-- `value == s` for a string `s`. -/
def isStr (s : String) : Yaml → Bool
  | str t => t = s
  | _ => false

theorem getItem_of_not_map {v : Yaml} (hv : ∀ entries, v ≠ map entries) (key : String) :
    v.getItem key = .error .typeError := by
  cases v <;> simp_all [getItem]

end Yaml

/-- The characters `str.strip()` removes. -/
def isPySpace (c : Char) : Bool :=
  c = ' ' || c = '\t' || c = '\n' || c = '\r' || c = '\x0b' || c = '\x0c'

def strip (cs : List Char) : List Char :=
  ((cs.dropWhile isPySpace).reverse.dropWhile isPySpace).reverse

/-- A nonempty run of decimal digits and its value. -/
def decimal (ds : List Char) : Option Nat :=
  if ds ≠ [] ∧ ds.all Char.isDigit then
    some (ds.foldl (fun n c => 10 * n + (c.toNat - '0'.toNat)) 0)
  else none

/-- Python 2's `int(s)` on a string: surrounding blanks, an optional sign, the blanks
`PyOS_strtoul` skips after it, then digits; `none` is the `ValueError`. -/
def pyInt (s : String) : Option Int :=
  match strip s.data with
  | '-' :: ds => (decimal (ds.dropWhile isPySpace)).map fun n => -(n : Int)
  | '+' :: ds => (decimal (ds.dropWhile isPySpace)).map fun n => (n : Int)
  | ds => (decimal ds).map fun n => (n : Int)

example : pyInt " 12\n" = some 12 ∧ pyInt "- 3" = some (-3) ∧ pyInt "+ 1" = some 1 ∧ pyInt "1.0" = none ∧
    pyInt "+ " = none := by decide

/-- `'/' in s`. -/
def hasSlash (s : String) : Bool := s.data.contains '/'

/-- `level.split('.')[0]`: the text before the first dot. -/
def majorLevel (level : String) : String := ⟨level.data.takeWhile (· ≠ '.')⟩

/-- `posixpath.join(a, *p)`: an absolute component restarts the path, otherwise
components are separated by one slash. -/
def pathJoin (a : String) (ps : List String) : String :=
  ps.foldl joinOne a
where
  joinOne (path b : String) : String :=
    if b.data.head? = some '/' then b
    else if path.data = [] ∨ path.data.getLast? = some '/' then path ++ b
    else path ++ "/" ++ b

example : pathJoin "/o" ["pipeline", majorLevel "1.2", "1.2-foo.yaml"] =
    "/o/pipeline/1/1.2-foo.yaml" := by decide

end LavaMaster
