import Reconciler.Proofs.Json.Layouts
import Reconciler.Proofs.Json.Pieces
import Reconciler.Proofs.Stores

/-!
State files of other versions. A file that was written by another version of the program, or by
hand, gives the members of the document and of its records in any order, has members that are not
known here, and leaves out what is empty: it says the same. What is said twice, left out though it
is needed, or null, is not guessed at: such a file is refused and stays as it is, so that no later
save can lose what it records.
-/
namespace Reconciler

namespace DiskRecord

def layout : Layout :=
  [("id", .needed), ("cid", .needed), ("size", .needed),
    ("cloud_properties", .optional (.object []))]

theorem follows : read.Follows layout := by
  refine .ofParts (fun _ _ => rfl) (fun alike made => ?_) (fun made => ?_)
  · simp only [Option.bind_eq_bind, Option.bind_eq_some_iff] at made ⊢
    obtain ⟨id, one, cid, two, size, three, props, four, made⟩ := made
    exact ⟨id, alike.required rfl one, cid, alike.required rfl two, size,
      alike.required rfl three, props,
      alike.withDefault rfl (fun _ _ => Reader.eq_nil_of_properties) four, made⟩
  · simp only [Option.bind_eq_bind, Option.bind_eq_some_iff] at made
    obtain ⟨id, one, cid, two, size, three, props, four, -⟩ := made
    simp only [layout, List.forall_mem_cons]
    exact ⟨Parts.answers_required one fun _ => rfl, Parts.answers_required two fun _ => rfl,
      Parts.answers_required three fun _ => rfl, Parts.ne_null_of_withDefault four fun _ => rfl,
      List.forall_mem_nil _⟩

end DiskRecord

namespace StemcellRecord

def layout : Layout :=
  [("id", .needed), ("name", .needed), ("version", .needed), ("cid", .needed)]

theorem follows : read.Follows layout := by
  refine .ofParts (fun _ _ => rfl) (fun alike made => ?_) (fun made => ?_)
  · simp only [Option.bind_eq_bind, Option.bind_eq_some_iff] at made ⊢
    obtain ⟨id, one, name, two, version, three, cid, four, made⟩ := made
    exact ⟨id, alike.required rfl one, name, alike.required rfl two, version,
      alike.required rfl three, cid, alike.required rfl four, made⟩
  · simp only [Option.bind_eq_bind, Option.bind_eq_some_iff] at made
    obtain ⟨id, one, name, two, version, three, cid, four, -⟩ := made
    simp only [layout, List.forall_mem_cons]
    exact ⟨Parts.answers_required one fun _ => rfl, Parts.answers_required two fun _ => rfl,
      Parts.answers_required three fun _ => rfl, Parts.answers_required four fun _ => rfl,
      List.forall_mem_nil _⟩

end StemcellRecord

namespace ReleaseRecord

def layout : Layout := [("id", .needed), ("name", .needed), ("version", .needed)]

theorem follows : read.Follows layout := by
  refine .ofParts (fun _ _ => rfl) (fun alike made => ?_) (fun made => ?_)
  · simp only [Option.bind_eq_bind, Option.bind_eq_some_iff] at made ⊢
    obtain ⟨id, one, name, two, version, three, made⟩ := made
    exact ⟨id, alike.required rfl one, name, alike.required rfl two, version,
      alike.required rfl three, made⟩
  · simp only [Option.bind_eq_bind, Option.bind_eq_some_iff] at made
    obtain ⟨id, one, name, two, version, three, -⟩ := made
    simp only [layout, List.forall_mem_cons]
    exact ⟨Parts.answers_required one fun _ => rfl, Parts.answers_required two fun _ => rfl,
      Parts.answers_required three fun _ => rfl, List.forall_mem_nil _⟩

end ReleaseRecord

namespace Document

def layout : Layout :=
  [("director_id", .optional (.string (some ""))),
    ("current_vm_cid", .optional (.string (some ""))),
    ("current_stemcell_id", .optional (.string (some ""))),
    ("current_disk_id", .optional (.string (some ""))),
    ("current_release_ids", .optional (.array [])), ("disks", .records DiskRecord.layout),
    ("stemcells", .records StemcellRecord.layout), ("releases", .records ReleaseRecord.layout)]

theorem follows : read.Follows layout := by
  have empty (depth : Nat) (text : String)
      (given : Reader.string depth (.string (some "")) = some text) : text = "" :=
    (Option.some.inj given).symm
  refine .ofParts (fun _ _ => rfl) (fun alike made => ?_) (fun made => ?_)
  · simp only [Option.bind_eq_bind, Option.bind_eq_some_iff] at made ⊢
    obtain ⟨director, one, vm, two, stemcell, three, disk, four, current, five, disks, six,
      stemcells, seven, releases, eight, made⟩ := made
    exact ⟨director, alike.withDefault rfl empty one, vm, alike.withDefault rfl empty two,
      stemcell, alike.withDefault rfl empty three, disk, alike.withDefault rfl empty four,
      current, alike.withDefault rfl (fun _ _ => Reader.eq_nil_of_list) five,
      disks, alike.records rfl DiskRecord.follows six,
      stemcells, alike.records rfl StemcellRecord.follows seven,
      releases, alike.records rfl ReleaseRecord.follows eight, made⟩
  · simp only [Option.bind_eq_bind, Option.bind_eq_some_iff] at made
    obtain ⟨director, one, vm, two, stemcell, three, disk, four, current, five, disks, six,
      stemcells, seven, releases, eight, -⟩ := made
    simp only [layout, List.forall_mem_cons]
    exact ⟨Parts.ne_null_of_withDefault one fun _ => rfl,
      Parts.ne_null_of_withDefault two fun _ => rfl,
      Parts.ne_null_of_withDefault three fun _ => rfl,
      Parts.ne_null_of_withDefault four fun _ => rfl,
      Parts.ne_null_of_withDefault five fun _ => rfl,
      Parts.answers_records DiskRecord.follows six,
      Parts.answers_records StemcellRecord.follows seven,
      Parts.answers_records ReleaseRecord.follows eight, List.forall_mem_nil _⟩

variable {text text' : String} {ms ms' : Members} {doc : Document}

theorem read_restated (written : Parsed.ofText? text = some (.object ms))
    (written' : Parsed.ofText? text' = some (.object ms')) (restates : layout.Restates ms ms')
    (given : read.ofText? text = some doc) : read.ofText? text' = some doc := by
  rw [Reader.ofText?, written, Option.bind_some] at given
  rw [Reader.ofText?, written', Option.bind_some]
  exact follows.restates restates given

theorem read_broken (written : Parsed.ofText? text = some (.object ms))
    (broken : layout.Broken ms) : read.ofText? text = none := by
  rw [Reader.ofText?, written, Option.bind_some]
  exact follows.refuses broken

end Document

namespace FileStore

variable {path : Path} {s : Files} {text : String}

theorem loadExisting_refuses (kept : s path = some text.toUTF8)
    (unread : Document.read.ofText? text = none) :
    (loadExisting path).run.Meets Files.Answers (fun _ _ _ _ => True)
      (fun result t => t = s ∧ ∃ fault, result = .error fault) s := by
  rw [loadExisting, run_read_bind]
  intro found t answered
  refine ⟨trivial, ?_⟩
  cases found with
  | none =>
    obtain rfl := answered
    exact ⟨rfl, .notRead, rfl⟩
  | some other =>
    obtain ⟨same, rfl⟩ := answered
    obtain rfl : text = other := by
      rw [kept, Option.some.injEq] at same
      exact String.toByteArray_inj.mp same
    dsimp only
    rw [unread]
    exact ⟨rfl, .notParsed, rfl⟩

/-- What is no document is refused as it is looked at, and stays what it is. -/
theorem load_refuses (kept : s path = some text.toUTF8)
    (unread : Document.read.ofText? text = none) :
    Serves path s .load (.error (.storage .notParsed)) s ∧
      ∀ reply t, Serves path s .load reply t →
        t = s ∧ ∃ fault, reply = .error (.storage fault) := by
  constructor
  · refine ⟨.error .notParsed, rfl, ?_⟩
    have there : Files.Answers s (.inspect path) PathStatus.present s :=
      ⟨fun _ => by simp [kept], nofun, rfl⟩
    have read : Files.Answers s (.read path) (some text) s := ⟨kept, rfl⟩
    rw [load, run_inspect_bind]
    refine .next there ?_
    dsimp only
    rw [loadExisting, run_read_bind]
    refine .next read ?_
    dsimp only
    rw [unread]
    exact .here _ s
  · rintro _ t ⟨result, rfl, ran⟩
    have meets : (load path).run.Meets Files.Answers (fun _ _ _ _ => True)
        (fun result t => t = s ∧ ∃ fault, result = .error fault) s := by
      rw [load, run_inspect_bind]
      intro status t answered
      obtain ⟨-, missing, rfl⟩ := answered
      refine ⟨trivial, ?_⟩
      cases status with
      | unknown => exact ⟨rfl, .notInspected, rfl⟩
      | missing =>
        have nothing := missing rfl
        rw [kept] at nothing
        cases nothing
      | present => exact loadExisting_refuses kept unread
    obtain ⟨same, fault, rfl⟩ := meets.ends ran
    exact ⟨same, fault, rfl⟩

end FileStore

namespace Document

/-- The texts of an object are what the texts of its members make when they are put together, and
so at every level. Texts of versions of an object all say the same document, if one of them does;
and of a text of what is no version nothing is read, so that a look at the file fails and changes
no file. -/
theorem versions_read_alike :
    (∀ text ms, Parsed.ofText? text = some (.object ms) ↔
      ∃ (pieces : Json.ObjectText) (after : Json.Blanks),
        text.toList = pieces.chars ++ after.1 ∧ pieces.entries = ms) ∧
    (∀ xs chars, Json.IsText (.array xs) chars ↔
      ∃ pieces : Json.ArrayText, chars = pieces.chars ∧ pieces.values = xs) ∧
    (∀ ms chars, Json.IsText (.object ms) chars ↔
      ∃ pieces : Json.ObjectText, chars = pieces.chars ∧ pieces.entries = ms) ∧
    (∀ text ms doc, Parsed.ofText? text = some (.object ms) → read.ofText? text = some doc →
      ∀ text' ms', Parsed.ofText? text' = some (.object ms') → layout.Restates ms ms' →
        read.ofText? text' = some doc) ∧
    ∀ text ms, Parsed.ofText? text = some (.object ms) → layout.Broken ms →
      read.ofText? text = none ∧
        ∀ (path : Path) (s : Files), s path = some text.toUTF8 →
          FileStore.Serves path s .load (.error (.storage .notParsed)) s ∧
            ∀ reply t, FileStore.Serves path s .load reply t →
              t = s ∧ ∃ fault, reply = .error (.storage fault) := by
  refine ⟨fun _ _ => Json.ofText?_object_iff, fun _ _ => Json.isText_array_iff,
    fun _ _ => Json.isText_object_iff, ?_, ?_⟩
  · intro text ms doc written given text' ms' written' restates
    exact read_restated written written' restates given
  · intro text ms written broken
    have unread := read_broken written broken
    exact ⟨unread, fun path s kept => FileStore.load_refuses kept unread⟩

/-- A file in which all is given that could be left out of it. -/
def older : Json :=
  .object [("director_id", "d"), ("current_vm_cid", ""), ("disks", .array [.object
    [("id", "i"), ("cid", "c"), ("size", (1 : UInt64)), ("cloud_properties", .object [])]])]

/-- The same file without it, with members of its own and in another order. -/
def newer : Json :=
  .object [("disks", .array [.object
    [("tier", .null), ("id", "i"), ("cid", "c"), ("size", (1 : UInt64))]]),
    ("schema", "2"), ("director_id", "d")]

/-- The same file again, which does not tell the disk. -/
def spoiled : Json :=
  .object [("director_id", "d"), ("disks", .array [.object
    [("id", "i"), ("cid", .null), ("size", (1 : UInt64))]])]

theorem versions_read_alike_newer :
    let doc : Document := ⟨"d", "", "", "", [], [⟨"i", "c", 1, []⟩], [], []⟩
    let files : Files := fun _ => some spoiled.compact.toUTF8
    read.ofText? older.compact = some doc ∧ read.ofText? newer.compact = some doc ∧
      read.ofText? spoiled.compact = none ∧
      FileStore.Serves ⟨["state"]⟩ files .load (.error (.storage .notParsed)) files := by
  intro doc files
  let director : Option String × Parsed := (some "director_id", .string (some "d"))
  let disk : Members := [(some "id", .string (some "i")), (some "cid", .string (some "c")),
    (some "size", .number (some (.ofUInt64 1)))]
  let props : Option String × Parsed := (some "cloud_properties", .object [])
  let disks (ms : Members) : Option String × Parsed := (some "disks", .array [.object ms])
  have first : layout.Step [director, (some "current_vm_cid", .string (some "")),
      disks (disk ++ [props])] [director, disks (disk ++ [props])] :=
    .omitted rfl rfl [director] [disks (disk ++ [props])]
  have second : layout.Step [director, disks (disk ++ [props])] [director, disks disk] :=
    .inside rfl (.omitted rfl rfl disk []) [] [] [director] []
  have third : layout.Step [director, disks disk]
      [director, disks ((some "tier", .null) :: disk)] :=
    .inside rfl (.inserted (by decide) .null [] disk) [] [] [director] []
  have fourth : layout.Step [director, disks ((some "tier", .null) :: disk)]
      [disks ((some "tier", .null) :: disk), director] := .permuted (.swap ..)
  have fifth : layout.Step [disks ((some "tier", .null) :: disk), director]
      [disks ((some "tier", .null) :: disk), (some "schema", .string (some "2")), director] :=
    .inserted (by decide) _ [disks ((some "tier", .null) :: disk)] [director]
  have restates := ((((Relation.ReflTransGen.single first).tail second).tail third).tail
    fourth).tail fifth
  have broken : layout.Broken [director, disks [(some "id", .string (some "i")),
      (some "cid", .null), (some "size", .number (some (.ofUInt64 1)))]] :=
    .inside rfl (List.mem_cons_of_mem _ (List.mem_singleton_self _)) (List.mem_singleton_self _)
      (.null (by decide) (List.mem_cons_of_mem _ (List.mem_cons_self ..)))
  have written : older.isWhole = true := rfl
  have given : read.ofText? older.compact = some doc := by
    rw [Reader.ofText?, Json.ofText?_compact written]
    rfl
  obtain ⟨-, -, -, alike, refused⟩ := versions_read_alike
  obtain ⟨unread, load⟩ := refused spoiled.compact _ (Json.ofText?_compact rfl) broken
  exact ⟨given, alike _ _ doc (Json.ofText?_compact rfl) given _ _ (Json.ofText?_compact rfl)
    restates, unread, (load ⟨["state"]⟩ files rfl).1⟩

end Document

end Reconciler
