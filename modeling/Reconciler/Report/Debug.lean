import Reconciler.Instance.Lifecycle
import Reconciler.Report.Unprintable

/-!
Handles as they are shown to a developer: the name of the type and its fields, texts quoted.
-/
namespace Reconciler.Debug

/-- Lower-case hexadecimal digits without leading zeros. -/
def hexDigits (n : Nat) : String := String.ofList (Nat.toDigits 16 n)

/-- A character of a quoted text. What does not show and has no name is given by its code. -/
def character (c : Char) : String :=
  if c = '"' then "\\\""
  else if c = '\\' then "\\\\"
  else if c = '\n' then "\\n"
  else if c = '\r' then "\\r"
  else if c = '\t' then "\\t"
  else if c.toNat = 0 then "\\0"
  else if Unprintable.has c then "\\u\x7b" ++ hexDigits c.toNat ++ "\x7d"
  else c.toString

def text (s : String) : String :=
  "\"" ++ String.join (s.toList.map character) ++ "\""

/-- Values with a comma between them. -/
def separated (parts : List String) : String := String.intercalate ", " parts

mutual

def json : Json → String
  | .null => "Null"
  | .bool b => s!"Bool({b})"
  | .number n => s!"Number({n.toText})"
  | .string s => s!"String({text s})"
  | .array xs => "Array [" ++ separated (items xs) ++ "]"
  | .object ms => "Object \x7b" ++ separated (members ms) ++ "\x7d"

def items : List Json → List String
  | [] => []
  | x :: xs => json x :: items xs

def members : List (String × Json) → List String
  | [] => []
  | (name, x) :: ms => (text name ++ ": " ++ json x) :: members ms

end

/-- A record with its fields. -/
def record (name : String) (fields : List (String × String)) : String :=
  name ++ " \x7b " ++ separated (fields.map fun (field, value) => field ++ ": " ++ value) ++ " \x7d"

def disk (disk : DiskRecord) : String :=
  record "Disk" [("record", record "DiskRecord" [("id", text disk.id), ("cid", text disk.cid),
    ("size", toString disk.size),
    ("cloud_properties", "\x7b" ++ separated (members disk.cloudProperties) ++ "\x7d")])]

def stemcell (stemcell : StemcellRecord) : String :=
  record "CloudStemcell" [("record", record "StemcellRecord" [("id", text stemcell.id),
    ("name", text stemcell.name), ("version", text stemcell.version), ("cid", text stemcell.cid)])]

def vm (vm : Vm) : String := record "Vm" [("cid", text vm.cid)]

def phase : Phase → String
  | .absent => "Absent"
  | .creating => "Creating"
  | .waitingForAgent => "WaitingForAgent"
  | .disksUpdated => "DisksUpdated"
  | .running => "Running"
  | .stopped => "Stopped"
  | .deleted => "Deleted"

def inst (i : Instance) : String :=
  record "Instance" [("job_name", text i.jobName), ("id", toString i.index), ("vm", vm i.vm),
    ("state", phase i.phase)]

end Reconciler.Debug
