import Reconciler.Instance.Phase
import Reconciler.Manifest.Basic
import Reconciler.Proofs.Json.Recovery
import Reconciler.Workspace.Document

/-!
Every value that is written, in a workspace file or for a caller, is read back from its text.
Free-form settings may hold any strings and whole numbers; they must not be nested deeper than a
reader looks.
-/
namespace Reconciler

open Json

section Recovering

variable {α : Type} {read : Reader α} {toJson : α → Json}

/-- What is written of a value is read back at every level where it fits. -/
structure Recovers (read : Reader α) (toJson : α → Json) (a : α) : Prop where
  whole : (toJson a).isWhole = true
  back (depth : Nat) (fits : depth + (toJson a).nesting ≤ maxDepth) :
    read depth (.ofJson (toJson a)) = some a

theorem Recovers.compact {a : α} (recovers : Recovers read toJson a)
    (shallow : (toJson a).nesting ≤ maxDepth) : read.ofText? (toJson a).compact = some a := by
  rw [Reader.ofText?, ofText?_compact recovers.whole, Option.bind_some]
  exact recovers.back 0 (by omega)

theorem Recovers.indented {a : α} (recovers : Recovers read toJson a)
    (shallow : (toJson a).nesting ≤ maxDepth) : read.ofText? (toJson a).indented = some a := by
  rw [Reader.ofText?, ofText?_indented recovers.whole, Option.bind_some]
  exact recovers.back 0 (by omega)

theorem Recovers.list {values : List α} (each : ∀ a ∈ values, Recovers read toJson a) :
    Recovers (Reader.list read) (fun values => .array (values.map toJson)) values where
  whole := by
    apply areWhole_of_mem
    intro item member
    obtain ⟨a, among, rfl⟩ := List.mem_map.mp member
    exact (each a among).whole
  back depth fits := by
    rw [nesting] at fits
    apply Reader.list_ofJson (by omega)
    intro a among
    have inside := nesting_le_itemNesting (List.mem_map_of_mem (f := toJson) among)
    exact (each a among).back (depth + 1) (by omega)

theorem Recovers.properties {props : Properties} (plain : props.Plain) :
    Recovers Reader.properties .object props where
  whole := plain.whole
  back _ fits := Reader.properties_ofJson plain fits

theorem Recovers.string (text : String) : Recovers Reader.string .string text where
  whole := rfl
  back _ _ := rfl

theorem Recovers.strings (texts : List String) : Recovers Reader.string.list Json.strings texts :=
  Recovers.list fun text _ => Recovers.string text

theorem Recovers.option {value : Option α} (present : ∀ a, toJson a ≠ .null)
    (each : ∀ a ∈ value, Recovers read toJson a) :
    Recovers read.nullable (Json.ofOption toJson) value where
  whole := by
    cases value with
    | none => rfl
    | some a => exact (each a rfl).whole
  back depth fits := by
    apply Reader.nullable_ofJson present
    rintro a ⟨⟩
    exact (each a rfl).back depth fits

theorem Recovers.optionalString (text : Option String) :
    Recovers Reader.string.nullable (Json.ofOption .string) text :=
  Recovers.option (fun _ => nofun) fun text _ => Recovers.string text

/-- A record is read back when each of its fields is, one level further in. -/
theorem Recovers.record {a : α} {names : List String} {fields : List (String × Json)}
    {build : Parts → Option α}
    (reader : read = fun depth value => (Parts.of? names depth value).bind build)
    (json : toJson a = .object fields) (same : fields.map Prod.fst = names) (distinct : names.Nodup)
    (whole : ∀ field ∈ fields, field.2.isWhole = true)
    (back : ∀ parts depth, (∀ field ∈ fields, parts.Gives field.1 (depth + 1) (.ofJson field.2) ∧
      depth + 1 + field.2.nesting ≤ maxDepth) → build parts = some a) : Recovers read toJson a where
  whole := by
    rw [json]
    exact haveWhole_of_mem whole
  back depth fits := by
    rw [json, nesting] at fits
    have shallow : depth < maxDepth := by omega
    obtain ⟨parts, found, gives⟩ := Parts.of?_ofJson same distinct shallow
    simp only [reader, json, found, Option.bind_some]
    apply back parts depth
    intro field member
    have inside := nesting_le_memberNesting member
    exact ⟨gives field member, by omega⟩

end Recovering

section Records

theorem DiskRecord.recovers {record : DiskRecord} (plain : record.cloudProperties.Plain) :
    Recovers DiskRecord.read DiskRecord.toJson record := by
  have settings := Recovers.properties plain
  refine Recovers.record (by rfl) (by rfl) (by rfl) (by decide) ?_ ?_
  · simp [settings.whole]
  · intro parts depth given
    simp only [List.forall_mem_cons, Parts.Gives] at given
    simp [given, settings.back]

theorem StemcellRecord.recovers (record : StemcellRecord) :
    Recovers StemcellRecord.read StemcellRecord.toJson record := by
  refine Recovers.record (by rfl) (by rfl) (by rfl) (by decide) ?_ ?_
  · simp
  · intro parts depth given
    simp only [List.forall_mem_cons, Parts.Gives] at given
    simp [given]

theorem ReleaseRecord.recovers (record : ReleaseRecord) :
    Recovers ReleaseRecord.read ReleaseRecord.toJson record := by
  refine Recovers.record (by rfl) (by rfl) (by rfl) (by decide) ?_ ?_
  · simp
  · intro parts depth given
    simp only [List.forall_mem_cons, Parts.Gives] at given
    simp [given]

/-- The free-form settings of a document. -/
def Document.settings (doc : Document) : List Properties := doc.disks.map DiskRecord.cloudProperties

theorem Document.recovers {doc : Document} (plain : ∀ props ∈ doc.settings, props.Plain) :
    Recovers Document.read Document.toJson doc := by
  have ids := Recovers.strings doc.currentReleaseIds
  have disks : Recovers (Reader.list DiskRecord.read) _ doc.disks := Recovers.list
    fun disk among => DiskRecord.recovers (plain _ (List.mem_map_of_mem among))
  have stemcells : Recovers (Reader.list StemcellRecord.read) _ doc.stemcells := Recovers.list
    fun stemcell _ => stemcell.recovers
  have releases : Recovers (Reader.list ReleaseRecord.read) _ doc.releases := Recovers.list
    fun release _ => release.recovers
  refine Recovers.record (by rfl) (by rfl) (by rfl) (by decide) ?_ ?_
  · simp [ids.whole, disks.whole, stemcells.whole, releases.whole]
  · intro parts depth given
    simp only [List.forall_mem_cons, Parts.Gives] at given
    simp [given, ids.back, disks.back, stemcells.back, releases.back]

theorem DiskPool.recovers {pool : DiskPool} (plain : ∀ props ∈ pool.cloudProperties, props.Plain) :
    Recovers DiskPool.read DiskPool.toJson pool := by
  have settings : Recovers (Reader.nullable Reader.properties) (Json.ofOption .object)
      pool.cloudProperties :=
    Recovers.option (fun _ => nofun) fun props among => Recovers.properties (plain props among)
  refine Recovers.record (by rfl) (by rfl) (by rfl) (by decide) ?_ ?_
  · simp [settings.whole]
  · intro parts depth given
    simp only [List.forall_mem_cons, Parts.Gives] at given
    simp [given, settings.back]

theorem ResourcePool.recovers {pool : ResourcePool} (plain : pool.cloudProperties.Plain)
    (plainEnv : pool.env.Plain) : Recovers ResourcePool.read ResourcePool.toJson pool := by
  have settings := Recovers.properties plain
  have env := Recovers.properties plainEnv
  refine Recovers.record (by rfl) (by rfl) (by rfl) (by decide) ?_ ?_
  · simp [settings.whole, env.whole]
  · intro parts depth given
    simp only [List.forall_mem_cons, Parts.Gives] at given
    simp [given, settings.back, env.back]

theorem Network.recovers {network : Network} (plain : network.cloudProperties.Plain) :
    Recovers Network.read Network.toJson network := by
  have settings := Recovers.properties plain
  have ip := Recovers.optionalString network.ip
  refine Recovers.record (by rfl) (by rfl) (by rfl) (by decide) ?_ ?_
  · simp [settings.whole, ip.whole]
  · intro parts depth given
    simp only [List.forall_mem_cons, Parts.Gives] at given
    simp [given, settings.back, ip.back]

theorem Job.recovers (job : Job) : Recovers Job.read Job.toJson job := by
  have networks := Recovers.strings job.networks
  have pool := Recovers.optionalString job.persistentDiskPool
  refine Recovers.record (by rfl) (by rfl) (by rfl) (by decide) ?_ ?_
  · simp [networks.whole, pool.whole]
  · intro parts depth given
    simp only [List.forall_mem_cons, Parts.Gives] at given
    simp [given, networks.back, pool.back]

theorem WatchTime.recovers (watch : WatchTime) :
    Recovers WatchTime.read WatchTime.toJson watch := by
  refine Recovers.record (by rfl) (by rfl) (by rfl) (by decide) ?_ ?_
  · simp
  · intro parts depth given
    simp only [List.forall_mem_cons, Parts.Gives] at given
    simp [given]

theorem Update.recovers (update : Update) : Recovers Update.read Update.toJson update := by
  have watch := update.watchTime.recovers
  refine Recovers.record (by rfl) (by rfl) (by rfl) (by decide) ?_ ?_
  · simp [watch.whole]
  · intro parts depth given
    simp only [List.forall_mem_cons, Parts.Gives] at given
    simp [given, watch.back]

theorem ReleaseRef.recovers (release : ReleaseRef) :
    Recovers ReleaseRef.read ReleaseRef.toJson release := by
  refine Recovers.record (by rfl) (by rfl) (by rfl) (by decide) ?_ ?_
  · simp
  · intro parts depth given
    simp only [List.forall_mem_cons, Parts.Gives] at given
    simp [given]

/-- The free-form settings of a manifest. -/
def Manifest.settings (manifest : Manifest) : List Properties :=
  manifest.diskPools.filterMap DiskPool.cloudProperties ++
    manifest.resourcePools.flatMap (fun pool => [pool.cloudProperties, pool.env]) ++
    manifest.networks.map Network.cloudProperties

theorem Manifest.recovers {manifest : Manifest}
    (plain : ∀ props ∈ manifest.settings, props.Plain) :
    Recovers Manifest.read Manifest.toJson manifest := by
  simp only [Manifest.settings, List.mem_append, or_imp, forall_and] at plain
  obtain ⟨⟨plainDisks, plainPools⟩, plainNetworks⟩ := plain
  have releases : Recovers (Reader.list ReleaseRef.read) _ manifest.releases := Recovers.list
    fun release _ => release.recovers
  have jobs : Recovers (Reader.list Job.read) _ manifest.jobs := Recovers.list
    fun job _ => job.recovers
  have diskPools : Recovers (Reader.list DiskPool.read) _ manifest.diskPools := Recovers.list
    fun pool among => DiskPool.recovers fun props given =>
      plainDisks props (List.mem_filterMap.mpr ⟨pool, among, given⟩)
  have resourcePools : Recovers (Reader.list ResourcePool.read) _ manifest.resourcePools :=
    Recovers.list fun pool among => ResourcePool.recovers
      (plainPools _ (List.mem_flatMap.mpr ⟨pool, among, by simp⟩))
      (plainPools _ (List.mem_flatMap.mpr ⟨pool, among, by simp⟩))
  have networks : Recovers (Reader.list Network.read) _ manifest.networks := Recovers.list
    fun network among => Network.recovers (plainNetworks _ (List.mem_map_of_mem among))
  have update := manifest.update.recovers
  refine Recovers.record (by rfl) (by rfl) (by rfl) (by decide) ?_ ?_
  · simp [releases.whole, jobs.whole, diskPools.whole, resourcePools.whole, networks.whole,
      update.whole]
  · intro parts depth given
    simp only [List.forall_mem_cons, Parts.Gives] at given
    simp [given, releases.back, jobs.back, diskPools.back, resourcePools.back, networks.back,
      update.back]

theorem SshTunnelConfig.recovers (config : SshTunnelConfig) :
    Recovers SshTunnelConfig.read SshTunnelConfig.toJson config := by
  refine Recovers.record (by rfl) (by rfl) (by rfl) (by decide) ?_ ?_
  · simp
  · intro parts depth given
    simp only [List.forall_mem_cons, Parts.Gives] at given
    simp [given]

theorem RegistryConfig.recovers (config : RegistryConfig) :
    Recovers RegistryConfig.read RegistryConfig.toJson config := by
  refine Recovers.record (by rfl) (by rfl) (by rfl) (by decide) ?_ ?_
  · simp
  · intro parts depth given
    simp only [List.forall_mem_cons, Parts.Gives] at given
    simp [given]

theorem StemcellManifest.recovers {manifest : StemcellManifest}
    (plain : manifest.cloudProperties.Plain) :
    Recovers StemcellManifest.read StemcellManifest.toJson manifest := by
  have settings := Recovers.properties plain
  refine Recovers.record (by rfl) (by rfl) (by rfl) (by decide) ?_ ?_
  · simp [settings.whole]
  · intro parts depth given
    simp only [List.forall_mem_cons, Parts.Gives] at given
    simp [given, settings.back]

theorem AgentState.recovers {state : AgentState} (plain : state.networks.Plain) :
    Recovers AgentState.read AgentState.toJson state := by
  have networks := Recovers.properties plain
  refine Recovers.record (by rfl) (by rfl) (by rfl) (by decide) ?_ ?_
  · simp [networks.whole]
  · intro parts depth given
    simp only [List.forall_mem_cons, Parts.Gives] at given
    simp [given, networks.back]

theorem Phase.ofName?_name (phase : Phase) : Phase.ofName? phase.name = some phase := by
  cases phase <;> decide

theorem Phase.recovers (phase : Phase) : Recovers Phase.read Phase.toJson phase where
  whole := rfl
  back _ _ := phase.ofName?_name

end Records

/-- A value that can be written and read: its free-form settings are plain, and no part of it is
nested too deep. -/
structure Writable (settings : List Properties) (json : Json) : Prop where
  plain : ∀ props ∈ settings, props.Plain
  shallow : json.nesting ≤ maxDepth

/-- The compact text of a value is read as the value. -/
def ReadsBack {α : Type} (read : Reader α) (toJson : α → Json) (a : α) : Prop :=
  read.ofText? (toJson a).compact = some a

theorem Job.nesting_toJson (job : Job) : job.toJson.nesting ≤ 2 := by
  have pool : (Json.ofOption .string job.persistentDiskPool).nesting = 0 := by
    cases job.persistentDiskPool <;> rfl
  have networks : itemNesting (job.networks.map .string) ≤ 0 :=
    itemNesting_map_le fun network _ => Nat.le_refl 0
  simp only [Job.toJson, nesting, memberNesting, Json.strings, pool]
  omega

/-- Whatever is written is read back, also a document from its indented text. -/
theorem written_is_read_back :
    (∀ doc : Document, Writable doc.settings doc.toJson →
      ReadsBack Document.read Document.toJson doc ∧
        Document.read.ofText? doc.toJson.indented = some doc) ∧
    (∀ record : DiskRecord, Writable [record.cloudProperties] record.toJson →
      ReadsBack DiskRecord.read DiskRecord.toJson record) ∧
    (∀ record : StemcellRecord, ReadsBack StemcellRecord.read StemcellRecord.toJson record) ∧
    (∀ record : ReleaseRecord, ReadsBack ReleaseRecord.read ReleaseRecord.toJson record) ∧
    (∀ manifest : Manifest, Writable manifest.settings manifest.toJson →
      ReadsBack Manifest.read Manifest.toJson manifest) ∧
    (∀ job : Job, ReadsBack Job.read Job.toJson job) ∧
    (∀ network : Network, Writable [network.cloudProperties] network.toJson →
      ReadsBack Network.read Network.toJson network) ∧
    (∀ pool : DiskPool, Writable pool.cloudProperties.toList pool.toJson →
      ReadsBack DiskPool.read DiskPool.toJson pool) ∧
    (∀ pool : ResourcePool, Writable [pool.cloudProperties, pool.env] pool.toJson →
      ReadsBack ResourcePool.read ResourcePool.toJson pool) ∧
    (∀ update : Update, ReadsBack Update.read Update.toJson update) ∧
    (∀ release : ReleaseRef, ReadsBack ReleaseRef.read ReleaseRef.toJson release) ∧
    (∀ config : SshTunnelConfig, ReadsBack SshTunnelConfig.read SshTunnelConfig.toJson config) ∧
    (∀ config : RegistryConfig, ReadsBack RegistryConfig.read RegistryConfig.toJson config) ∧
    (∀ state : AgentState, Writable [state.networks] state.toJson →
      ReadsBack AgentState.read AgentState.toJson state) ∧
    (∀ phase : Phase, ReadsBack Phase.read Phase.toJson phase) ∧
    (∀ manifest : StemcellManifest, Writable [manifest.cloudProperties] manifest.toJson →
      ReadsBack StemcellManifest.read StemcellManifest.toJson manifest) := by
  have flat {json : Json} (few : json.nesting ≤ 2) : json.nesting ≤ maxDepth :=
    Nat.le_trans few (by decide)
  refine ⟨?document, ?disk, ?stemcell, ?release, ?manifest, ?job, ?network, ?diskPool,
    ?resourcePool, ?update, ?releaseRef, ?tunnel, ?registry, ?agentState, ?phase,
    ?stemcellManifest⟩
  case document =>
    intro doc writable
    have recovers := Document.recovers writable.plain
    exact ⟨recovers.compact writable.shallow, recovers.indented writable.shallow⟩
  case disk =>
    intro record writable
    exact (DiskRecord.recovers (writable.plain _ (by simp))).compact writable.shallow
  case stemcell =>
    intro record
    exact record.recovers.compact (flat (by simp [StemcellRecord.toJson, nesting, memberNesting]))
  case release =>
    intro record
    exact record.recovers.compact (flat (by simp [ReleaseRecord.toJson, nesting, memberNesting]))
  case manifest =>
    exact fun manifest writable => (Manifest.recovers writable.plain).compact writable.shallow
  case job => exact fun job => job.recovers.compact (flat job.nesting_toJson)
  case network =>
    intro network writable
    exact (Network.recovers (writable.plain _ (by simp))).compact writable.shallow
  case diskPool =>
    intro pool writable
    have plain : ∀ props ∈ pool.cloudProperties, props.Plain :=
      fun props given => writable.plain props (by simpa using given)
    exact (DiskPool.recovers plain).compact writable.shallow
  case resourcePool =>
    intro pool writable
    have recovers := ResourcePool.recovers (writable.plain pool.cloudProperties (by simp))
      (writable.plain pool.env (by simp))
    exact recovers.compact writable.shallow
  case update =>
    intro update
    have levels : update.toJson.nesting ≤ 2 := by
      simp [Update.toJson, WatchTime.toJson, nesting, memberNesting]
    exact update.recovers.compact (flat levels)
  case releaseRef =>
    intro release
    exact release.recovers.compact (flat (by simp [ReleaseRef.toJson, nesting, memberNesting]))
  case tunnel =>
    intro config
    exact config.recovers.compact (flat (by simp [SshTunnelConfig.toJson, nesting, memberNesting]))
  case registry =>
    intro config
    exact config.recovers.compact (flat (by simp [RegistryConfig.toJson, nesting, memberNesting]))
  case agentState =>
    intro state writable
    exact (AgentState.recovers (writable.plain _ (by simp))).compact writable.shallow
  case phase => exact fun phase => phase.recovers.compact (Nat.zero_le _)
  case stemcellManifest =>
    intro manifest writable
    exact (StemcellManifest.recovers (writable.plain _ (by simp))).compact writable.shallow

/-- Settings with a quoted name, numbers at both ends of their range, and nested containers. -/
def Properties.varied : Properties :=
  [("a \"quoted\" name\n", .number (.whole (-0x8000000000000000) (by decide))),
    ("list", .array [.null, .bool true, .array [], .object []]),
    ("size", .number (.whole 0xffffffffffffffff (by decide)))]

theorem Properties.empty_plain : Properties.Plain [] := ⟨rfl, rfl⟩

theorem Properties.varied_plain : Properties.varied.Plain := ⟨by decide, by decide⟩

def Document.varied : Document :=
  { Document.fresh "director" with disks := [⟨"id", "cid", 1024, .varied⟩] }

theorem varied_settings_are_read_back :
    ReadsBack Document.read Document.toJson Document.varied ∧
    Document.read.ofText? Document.varied.toJson.indented = some Document.varied ∧
    ReadsBack DiskRecord.read DiskRecord.toJson ⟨"id", "cid", 1024, .varied⟩ ∧
    ReadsBack Manifest.read Manifest.toJson ⟨"name", [⟨"release", "1"⟩], [],
      [⟨"fast", 1024, some .varied⟩], [⟨"default", .varied, []⟩],
      [⟨"private", "manual", none, .varied⟩], .none⟩ ∧
    ReadsBack Network.read Network.toJson ⟨"private", "manual", some "10.0.0.6", .varied⟩ ∧
    ReadsBack DiskPool.read DiskPool.toJson ⟨"fast", 1024, some .varied⟩ ∧
    ReadsBack ResourcePool.read ResourcePool.toJson ⟨"default", .varied, .varied⟩ ∧
    ReadsBack AgentState.read AgentState.toJson ⟨"running", .varied⟩ ∧
    ReadsBack StemcellManifest.read StemcellManifest.toJson ⟨"name", "1", "image", .varied⟩ := by
  have plain := Properties.varied_plain
  obtain ⟨documents, disks, -, -, manifests, -, networks, diskPools, resourcePools, -, -, -, -,
    agentStates, -, stemcells⟩ := written_is_read_back
  have documentPlain : ∀ props ∈ Document.varied.settings, props.Plain := by
    simpa [Document.settings, Document.varied] using plain
  have document := documents Document.varied ⟨documentPlain, by decide⟩
  refine ⟨document.1, document.2, disks _ ⟨?_, by decide⟩, manifests _ ⟨?_, by decide⟩,
    networks _ ⟨?_, by decide⟩, diskPools _ ⟨?_, by decide⟩, resourcePools _ ⟨?_, by decide⟩,
    agentStates _ ⟨?_, by decide⟩, stemcells _ ⟨?_, by decide⟩⟩
  all_goals simp [Manifest.settings, plain, Properties.empty_plain]

end Reconciler
