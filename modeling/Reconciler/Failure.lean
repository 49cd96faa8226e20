import Reconciler.Duration

/-!
Why an operation failed. A failure has one cause, told by the part it came from, under any number of
contexts that name the operations it interrupted. Each cause has its text in one place.

Covers `DeployError` (`root`, `source`, `cloud_kind`, `is_recoverable`), `CloudError`,
`CloudErrorKind` and `SshError`, with the text of each. What an operating system, a parser or a task
that broke down adds to a text is left out.
-/
namespace Reconciler

inductive CloudErrorKind
  | vmNotFound
  | diskNotFound
  | stemcellNotFound
  | notImplemented
  | other
  deriving DecidableEq, Repr

namespace CloudErrorKind

/-- The name that clouds report the kind under. -/
def text : CloudErrorKind → String
  | .vmNotFound => "Bosh::Clouds::VMNotFound"
  | .diskNotFound => "Bosh::Clouds::DiskNotFound"
  | .stemcellNotFound => "Bosh::Clouds::StemcellNotFound"
  | .notImplemented => "Bosh::Clouds::NotImplemented"
  | .other => "Bosh::Clouds::CloudError"

/-- A plain name for reports and scripts. -/
def name : CloudErrorKind → String
  | .vmNotFound => "vm_not_found"
  | .diskNotFound => "disk_not_found"
  | .stemcellNotFound => "stemcell_not_found"
  | .notImplemented => "not_implemented"
  | .other => "other"

/-- The kind of a name. A name that is not known is `other`. -/
def ofName (name : String) : CloudErrorKind :=
  ([.vmNotFound, .diskNotFound, .stemcellNotFound, .notImplemented].find?
    (fun kind : CloudErrorKind => kind.name == name)).getD .other

/-- The resource that a call was about is already gone. -/
def isNotFound : CloudErrorKind → Bool
  | .vmNotFound | .diskNotFound | .stemcellNotFound => true
  | .notImplemented | .other => false

end CloudErrorKind

/-- What a cloud answers when a call fails. -/
structure CloudError where
  method : String
  kind : CloudErrorKind
  message : String
  deriving DecidableEq, Repr

def CloudError.text (e : CloudError) : String :=
  s!"CPI '{e.method}' method responded with error: {e.kind.text}: {e.message}"

/-- What an SSH transport reports. -/
structure SshError where
  message : String
  deriving DecidableEq, Repr

/-- How the file that holds a workspace let its store down. -/
inductive StorageFault
  | directoryNotCreated
  | notInspected
  | notRead
  | notParsed
  | notWritten
  | notReplaced
  | reported (message : String)
  deriving DecidableEq, Repr

def StorageFault.text : StorageFault → String
  | .directoryNotCreated => "failed to create state dir"
  | .notInspected => "failed to stat state file"
  | .notRead => "failed to read state file"
  | .notParsed => "failed to parse state file"
  | .notWritten => "failed to write state file"
  | .notReplaced => "failed to replace state file"
  | .reported message => message

/-- Why records and resources do not fit together. -/
inductive StateFault
  | unknownDisk (id : String)
  | unknownStemcell (id : String)
  | unknownRelease (id : String)
  | sameStemcell (name version existing : String)
  | sameStemcellCid (name version cid existing : String)
  | stemcellNotRecorded (cid name version : String)
  | newDiskNotRecorded
  | tunnelAlreadyStarted
  | reported (message : String)
  deriving DecidableEq, Repr

def StateFault.text : StateFault → String
  | .unknownDisk id => s!"Verifying disk record exists with id '{id}'"
  | .unknownStemcell id => s!"Verifying stemcell record exists with id '{id}'"
  | .unknownRelease id => s!"Verifying release record exists with id '{id}'"
  | .sameStemcell name version existing =>
    s!"Failed to save stemcell record '{name}/{version}' (duplicate name/version)" ++
      s!", existing record found '{existing}'"
  | .sameStemcellCid name version cid existing =>
    s!"Failed to save stemcell record '{name}/{version}' (duplicate cid '{cid}')" ++
      s!", existing record found '{existing}'"
  | .stemcellNotRecorded cid name version =>
    s!"Stemcell does not exist in repo (cid={cid}, name={name}, version={version})"
  | .newDiskNotRecorded => "Failed to find disk record for new disk"
  | .tunnelAlreadyStarted => "SSH tunnel already started"
  | .reported message => message

/-- What is wrong with a manifest. -/
inductive ManifestFault
  | jobCount (found : Nat)
  | instanceCount (job : String) (found : UInt32)
  | noJob (job : String)
  | noDiskPool (pool job : String)
  | noResourcePool (pool job : String)
  | noNetwork (network job : String)
  | reported (message : String)
  deriving DecidableEq, Repr

def ManifestFault.text : ManifestFault → String
  | .jobCount found => s!"There must only be one job, found {found}"
  | .instanceCount job found => s!"Job '{job}' must have only one instance, found {found}"
  | .noJob job => s!"Could not find job '{job}'"
  | .noDiskPool pool job => s!"Could not find persistent disk pool '{pool}' for job '{job}'"
  | .noResourcePool pool job => s!"Could not find resource pool '{pool}' for job '{job}'"
  | .noNetwork network job => s!"Could not find network '{network}' for job '{job}'"
  | .reported message => message

inductive Failure
  | cloud (error : CloudError)
  | agent (message : String)
  | storage (fault : StorageFault)
  | invalidState (fault : StateFault)
  | validation (fault : ManifestFault)
  | ssh (error : SshError)
  | timeout (message : String)
  | within (context : String) (source : Failure)
  deriving DecidableEq, Repr

namespace Failure

/-- The whole text, outermost context first. -/
def text : Failure → String
  | .cloud error => error.text
  | .agent message => "agent request failed: " ++ message
  | .storage fault => "storage error: " ++ fault.text
  | .invalidState fault => "invalid deployment state: " ++ fault.text
  | .validation fault => "validation failed: " ++ fault.text
  | .ssh error => "ssh: " ++ error.message
  | .timeout message => "timeout: " ++ message
  | .within context source => context ++ ": " ++ source.text

/-- The cause, without its contexts. -/
def root : Failure → Failure
  | .within _ source => source.root
  | failure => failure

/-- What each context wraps, outermost first. -/
def sources : Failure → List Failure
  | .within _ source => source :: source.sources
  | _ => []

/-- The kind of the cloud error at the root, if it is one. -/
def cloudKind (failure : Failure) : Option CloudErrorKind :=
  match failure.root with
  | .cloud error => some error.kind
  | _ => none

/-- Running the command again may help: the agent, SSH or time was short. -/
def isRecoverable (failure : Failure) : Bool :=
  match failure.root with
  | .agent _ | .ssh _ | .timeout _ => true
  | _ => false

end Failure

end Reconciler
