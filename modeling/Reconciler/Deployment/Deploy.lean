import Reconciler.Deployment.Teardown

/-!
Bringing a workspace to what a manifest asks for. Nothing is rolled back: a run that failed leaves
the workspace document describing exactly what exists, and running again goes on from there.

Covers `Deployer`: `deploy`, with the managers as `ManagerFactory` wires them.
-/
namespace Reconciler.Deployment

/-- Uploads the stemcell, replaces any instance by a new one with its disk in place, applies the
jobs, and deletes the stemcells and release records that nothing uses any more. -/
def deploy (settings : Settings) (manifest : Manifest) (extracted : ExtractedStemcell)
    (registry : RegistryConfig) (tunnel : SshTunnelConfig) : Engine Unit := do
  let job ← Engine.valid manifest.singleJob
  let uploading : Stage := ⟨"uploading stemcell"⟩
  uploading.start
  let stemcell ← within "Uploading stemcell" (Stemcells.upload extracted uploading)
  uploading.finish
  let stage : Stage := ⟨"deploying"⟩
  stage.start
  Instances.deleteAll settings settings.pingTimeout settings.pingDelay settings.skipDrain stage
  let (i, _) ← within s!"Creating instance '{job.name}/0'"
    (Instances.create settings job.name 0 manifest stemcell registry tunnel stage)
  discard <| (Instance.updateJobs manifest stage).toEngine i
  discard <| within "Recording deployed releases" (Releases.record manifest.releases)
  Stemcells.deleteUnused stage
  Releases.deleteUnused stage
  stage.finish

end Reconciler.Deployment
