import Reconciler.Proofs.ReleaseRuns

/-!
What is recorded of the releases that a deployment names. However often a release is named and
whatever was recorded before, the current releases are afterwards those that were named, each of
them once. Nothing recorded is changed or moved. Where a store fails in between, the releases that
were current still are.
-/
namespace Reconciler

open Engine

variable {c : Conduct} {s t : Surroundings}

namespace Releases

/-- Where records have ids of their own, none of which is issued again, releases that were recorded
are the current ones, each of them once. What was returned are their records, in their order, and
the records that were made are those of releases that had none, in the order in which they are first
named. If a store failed, some of these were made, from the first one on, and what was current is
current. -/
theorem record_makes_current {releases : List ReleaseRef}
    {result : Except Failure (List ReleaseRecord)}
    (distinct : (s.doc.releases.map (·.id)).Nodup)
    (known : ∀ record ∈ s.doc.releases, record.id ∈ s.ids)
    (ran : (record releases).run.Reaches c.Answers s (.done result) t) :
    Frame [.releases] s t ∧ ∃ new, t.doc.releases = s.doc.releases ++ new ∧
      match result with
      | .ok records =>
        records.map (·.names) = releases.map (·.names) ∧ (∀ r ∈ records, r ∈ t.doc.releases) ∧
          new.map (·.names) = s.doc.unrecorded releases ∧
          ∀ found u, findCurrent.run.Reaches c.Answers t (.done found) u →
            match found with
            | .ok current => (current.map (·.names)).Nodup ∧
                ∀ names, names ∈ current.map (·.names) ↔ names ∈ releases.map (·.names)
            | .error _ => c.StoreFails
      | .error _ =>
        c.StoreFails ∧ t.doc.currentReleaseIds = s.doc.currentReleaseIds ∧
          new.map (·.names) <+: s.doc.unrecorded releases := by
  have valid := (record_touches releases).framed (record_meets (c := c) ⟨distinct, known⟩)
  have ended := Program.Meets.ends valid ran
  cases result with
  | error failure =>
    obtain ⟨⟨failing, names, part, added⟩, frame⟩ := ended
    obtain ⟨new, records, named⟩ := added.records
    exact ⟨frame, new, records, failing, added.pointers, named ▸ part⟩
  | ok records =>
    obtain ⟨noted, frame⟩ := ended
    obtain ⟨new, recorded, named⟩ := noted.added
    refine ⟨frame, new, recorded, noted.finds.names, fun _ => noted.finds.member, named, ?_⟩
    intro found u looked
    have valid := findCurrent_meets (c := c) (g := .none) (Frame.refl [] t)
    have seen := Program.Meets.ends valid looked
    cases found with
    | error failure => exact seen.1
    | ok current =>
      obtain ⟨rfl, -⟩ := seen
      exact noted.recorded.named

/-- Two releases are recorded, and one of them is current. -/
def twoRecorded : Surroundings :=
  { Surroundings.empty with
    doc := { Document.fresh "director" with
      currentReleaseIds := ["a"], releases := [⟨"a", "cpi", "1"⟩, ⟨"b", "dns", "1"⟩] }
    ids := {"a", "b"} }

/-- A deployment that names a recorded release and, twice, a new one. -/
theorem record_makes_current_repeated : ∃ records t,
    (record [⟨"uaa", "7"⟩, ⟨"dns", "1"⟩, ⟨"uaa", "7"⟩]).run.Reaches Conduct.any.Answers twoRecorded
      (.done (.ok records)) t ∧
    records.map (·.names) = [("uaa", "7"), ("dns", "1"), ("uaa", "7")] ∧
    t.doc.releases.map (·.names) = [("cpi", "1"), ("dns", "1"), ("uaa", "7")] ∧
    ∃ current u, findCurrent.run.Reaches Conduct.any.Answers t (.done (.ok current)) u ∧
      ("uaa", "7") ∈ current.map (·.names) ∧ ("cpi", "1") ∉ current.map (·.names) ∧
      (current.map (·.names)).Nodup := by
  let c := Conduct.any
  have loaded (s : Surroundings) (same : s.doc.directorId = "director") :
      c.Answers s .load _ (s.loaded "director") := c.answers_load s _ fun _ => same.symm
  obtain ⟨records, t, current, u, ran, looked⟩ : ∃ records t current u,
      (record [⟨"uaa", "7"⟩, ⟨"dns", "1"⟩, ⟨"uaa", "7"⟩]).run.Reaches c.Answers twoRecorded
        (.done (.ok records)) t ∧ findCurrent.run.Reaches c.Answers t (.done (.ok current)) u :=
    ⟨_, _, _, _,
      .next (loaded _ rfl) <| .next (loaded _ rfl) <|
        .next (c.answers_freshId _ (show "c" ≠ "" by decide) (by decide)) <|
        .next (c.answers_save _ _) <| .next (loaded _ rfl) <| .next (loaded _ rfl) <|
        .next (loaded _ rfl) <| .next (c.answers_save _ _) <| .here _ _,
      .next (loaded _ rfl) <| .here _ _⟩
  obtain ⟨-, new, recorded, names, -, added, seen⟩ :=
    record_makes_current (by decide) (by decide) ran
  obtain ⟨once, named⟩ := seen _ _ looked
  refine ⟨records, t, ran, names, ?_, current, u, looked, (named _).mpr (by decide),
    fun member => absurd ((named _).mp member) (by decide), once⟩
  rw [recorded, List.map_append, added]
  decide

end Releases

end Reconciler
