import Mathlib.Data.Fintype.EquivFin
import Reconciler.Proofs.Accounting

/-!
Running again goes on. Whatever was begun and given up before, a deployment of a sound manifest in
surroundings that work asks for nothing that is not there, and comes to a good end.
-/
namespace Reconciler

open Engine Surroundings

variable {s t : Surroundings}

namespace Conduct

theorem smooth_faithful : smooth.Faithful := ⟨trivial, not_storeFails_smooth⟩

/-- Smooth surroundings have an answer to everything. -/
theorem smooth_total (s : Surroundings) (r : Request) : ∃ reply t, smooth.Answers s r reply t := by
  cases r with
  | cloud call =>
    obtain ⟨answer, unused⟩ : ∃ answer : call.Answer, s.Unused call answer := by
      cases call with
      | createStemcell | createVm | createDisk =>
        obtain ⟨cid, unused⟩ := Infinite.exists_notMem_finset (s.seen _)
        refine ⟨cid, ?_⟩
        rintro kind cid created
        cases created
        exact unused
      | hasVm => exact ⟨true, nofun⟩
      | _ => exact ⟨(), nofun⟩
    exact ⟨.ok answer, _, unused, rfl⟩
  | agent call =>
    obtain ⟨answer, runs⟩ : ∃ answer : call.Answer, call.Running answer := by
      cases call with
      | ping => exact ⟨"", trivial⟩
      | getState => exact ⟨⟨"running", []⟩, rfl⟩
      | listDisk => exact ⟨[], trivial⟩
      | _ => exact ⟨(), trivial⟩
    exact ⟨.ok answer, _, fun _ => runs, rfl⟩
  | render call => exact ⟨.ok .null, s, rfl⟩
  | load => exact ⟨.ok _, _, s.doc.directorId, fun _ => rfl, rfl, rfl⟩
  | save doc => exact ⟨.ok (), _, rfl⟩
  | connect options => exact ⟨.ok (0 : Nat), s, rfl⟩
  | close session => exact ⟨.ok (), s, rfl⟩
  | now => exact ⟨(0 : Nat), s, rfl⟩
  | freshId =>
    obtain ⟨id, new⟩ := Infinite.exists_notMem_finset (insert "" s.ids)
    rw [Finset.mem_insert, not_or] at new
    exact ⟨id, _, new.1, new.2, rfl⟩
  | _ => exact ⟨(), s, rfl⟩

theorem reliableStore_of_smooth {r : Request} {reply : r.Reply}
    (answered : smooth.Answers s r reply t) : reliableStore.Answers s r reply t := by
  refine answered.mono (fun held r fails => ?_) id False.elim
  cases r with
  | load | save => exact fails
  | _ => trivial

end Conduct

/-- What is only interrupted by trouble comes to a good end where there is none. -/
theorem Engine.Meets.exists_returned {α : Type} {g : Guard} {x : Engine α}
    {ok : α → Surroundings → Prop} (valid : Meets .smooth g s x ok fun _ => Interrupted .smooth) :
    ∃ a t, x.run.Reaches Conduct.smooth.Answers s (.done (.ok a)) t ∧ ok a t := by
  obtain ⟨result, t, ran⟩ := x.run.exists_done Conduct.smooth_total s
  have ended : Ends ok (fun _ => Interrupted .smooth) result t := Program.Meets.ends valid ran
  cases result with
  | ok a => exact ⟨a, t, ran, ended⟩
  | error e => exact absurd (ended Conduct.smooth_faithful).2 Conduct.not_troubled_smooth

/-- A deployment of a sound manifest only stops in trouble. -/
theorem Operation.deploy_ends (settings : Settings) {manifest : Manifest}
    (extracted : ExtractedStemcell) (registry : RegistryConfig) (tunnel : SshTunnelConfig)
    (orderly : s.Orderly .smooth) (resolves : manifest.Resolves) :
    (deploy settings manifest extracted registry tunnel).program.run.Meets Conduct.smooth.Answers
      (Guard.oneVm .smooth).safe (fun result _ => result = .ok ()) s.begin := by
  have valid : (deploy settings manifest extracted registry tunnel).program.run.Meets _ _ _ _ :=
    Deployment.deploy_orderly orderly.begin
  apply valid.weaken
  intro result t ended
  cases result with
  | ok => rfl
  | error e => exact absurd ((ended Conduct.smooth_faithful).2 resolves) Conduct.not_troubled_smooth

/-- From wherever failed runs of any operations have left a workspace: a deployment of a sound
manifest in surroundings where nothing fails but what is not there does not fail, and from each of
its moments it goes on until it has returned. -/
theorem deploy_resumes (settings : Settings) {manifest : Manifest} (extracted : ExtractedStemcell)
    (registry : RegistryConfig) (tunnel : SshTunnelConfig)
    (history : History .reliableStore (fun _ => True) .empty s) (resolves : manifest.Resolves) :
    let operation := Operation.deploy settings manifest extracted registry tunnel
    (∀ result t, operation.Comes .smooth s (.done result) t → result = .ok ()) ∧
      ∀ left t, operation.Comes .smooth s left t →
        ∃ u, left.Reaches Conduct.smooth.Answers t (.done (.ok ())) u := by
  have orderly : s.Orderly .smooth :=
    (history.orderly Conduct.reliableStore_faithful).transfer Conduct.reliableStore_faithful
  have valid := Operation.deploy_ends settings extracted registry tunnel orderly resolves
  refine ⟨fun result t ran => valid.ends ran, fun left t moment => ?_⟩
  obtain ⟨result, u, later⟩ := left.exists_done Conduct.smooth_total t
  have ended : result = .ok () := valid.ends (moment.trans later)
  exact ⟨u, ended ▸ later⟩

theorem Manifest.minimal_resolves : Manifest.minimal.Resolves :=
  ⟨⟨_, rfl⟩, ⟨_, rfl⟩, ⟨_, rfl⟩, ⟨_, rfl⟩⟩

/-- Once there is room for the machine, the same deployment goes well. -/
theorem deploy_resumes_full :
    Manifest.minimal.Resolves ∧ History .reliableStore (fun _ => True) .empty .full ∧
      ∃ u, Operation.minimal.Comes .smooth .full (.done (.ok ())) u := by
  obtain ⟨e, ran⟩ := Operation.minimal_full
  have history : History .reliableStore (fun _ => True) .empty .full := .run (.start _) trivial ran
  have resumed := deploy_resumes .standard .minimal .empty .empty history Manifest.minimal_resolves
  exact ⟨Manifest.minimal_resolves, history, resumed.2 _ _ (.here _ _)⟩

end Reconciler
