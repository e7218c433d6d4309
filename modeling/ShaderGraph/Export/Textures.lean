import ShaderGraph.FileTree
import ShaderGraph.Log
import ShaderGraph.Texture
import ShaderGraph.Stage.Compile

/-!
# Writing textures

Every texture of a material is loaded and written to a file of its own by a worker of its own. A
worker takes four steps: it starts, loads its image, creates its file and fills it. The steps of
different workers may come in any order; workers start in the order of their names, and only so many
at a time. A step may also fail for a reason that neither the source nor the files show, and the
export may be called off at any time. The first failure cancels the loads that have not begun.

A load and a fill are one step each here. Files are in truth read and written as streams, so a worker
that reads a file while another one fills it may find a part of it, and no run of the pool shows that.
-/
namespace ShaderGraph.Export

inductive LoadError where
  | cancelled
  | file (cause : FileError)
  | undecodable (path : Text) (cause : Image.Problem)
  | noImage
  | refused (reason : Text)
  | device (reason : Text)
deriving DecidableEq, Repr

def LoadError.message : LoadError → Text
  | .cancelled => "context canceled"
  | .file cause => cause.message
  | .undecodable path cause => "texture " ++ path ++ ": " ++ cause.message
  | .noImage => "nil texture image"
  | .refused reason => reason
  | .device reason => reason

inductive WriteError where
  | file (cause : FileError)
  | size (width height : Nat)
  | device (reason : Text)
deriving DecidableEq, Repr

def WriteError.message : WriteError → Text
  | .file cause => cause.message
  | .size width height =>
    "png: invalid format: invalid image size: " ++ Text.ofNat width ++ "x" ++ Text.ofNat height
  | .device reason => reason

inductive Failure where
  | noWriter
  | compile (cause : Stage.CompileError)
  | encoding
  | noDirectory (count : Nat)
  | fileName (name : Text)
  | directory (cause : FileError)
  | load (name : Text) (cause : LoadError)
  | noImage (name : Text)
  | write (name : Text) (cause : WriteError)
  | document
deriving DecidableEq, Repr

/-- The image of a texture source. Sources that read something heed a cancellation. -/
def loadTexture (tree : FileTree) (cancelled : Bool) :
    TextureSource → Except LoadError (Option Image)
  | .file path =>
    if cancelled then .error .cancelled
    else match tree.openFile path with
      | .error cause => .error (.file cause)
      | .ok .directory => .error (.undecodable path .unknownFormat)
      | .ok (.file (.picture image)) => .ok (some image)
      | .ok (.file (.bytes data)) =>
        match Image.decode data with
        | .ok image => .ok (some image)
        | .error cause => .error (.undecodable path cause)
  | .memory _ none => .error .noImage
  | .memory _ (some image) => if cancelled then .error .cancelled else .ok (some image)
  | .failing reason => .error (.refused reason)
  | .vacant _ => .ok none

structure Job where
  name : Text
  source : TextureSource
  path : Text
deriving DecidableEq, Repr

inductive Phase where
  | queued
  | started
  | loaded (image : Image)
  | created (image : Image)
  | done
  | failed
deriving DecidableEq, Repr

def Phase.isActive : Phase → Bool
  | .started | .loaded _ | .created _ => true
  | .queued | .done | .failed => false

structure Worker where
  job : Job
  phase : Phase
deriving DecidableEq, Repr

inductive Event where
  /-- A worker takes its next step. -/
  | step (worker : Nat)
  /-- The next step of a worker fails at the device, which leaves the bytes `left` in a file that it
  was filling. -/
  | fault (worker : Nat) (reason left : Text)
  /-- The export is called off. -/
  | cancel
deriving DecidableEq, Repr

structure Pool where
  tree : FileTree
  workers : List Worker
  cancelled : Bool
  failure : Option Failure
  /-- The files written so far by name of the texture, in the order in which they were finished. -/
  bindings : List (Text × Text)
deriving DecidableEq, Repr

namespace Pool

def setPhase (p : Pool) (i : Nat) (phase : Phase) : Pool :=
  { p with workers := p.workers.modify i fun w => { w with phase } }

def fail (p : Pool) (i : Nat) (f : Failure) : Pool :=
  { p.setPhase i .failed with
    failure := p.failure.or (some f)
    cancelled := true }

/-- Whether the worker may start: those before it have, and there is room. -/
def mayStart (limit : Nat) (p : Pool) (i : Nat) : Bool :=
  (p.workers.take i).all (·.phase != .queued) && p.workers.countP (·.phase.isActive) < limit

def start (tree : FileTree) (cancelled : Bool) (jobs : List Job) : Pool :=
  ⟨tree, jobs.map (⟨·, .queued⟩), cancelled, none, []⟩

def work (limit : Nat) (p : Pool) (i : Nat) : Pool :=
  match p.workers[i]? with
  | none => p
  | some ⟨job, phase⟩ =>
    match phase with
    | .queued => if p.mayStart limit i then p.setPhase i .started else p
    | .started =>
      match loadTexture p.tree p.cancelled job.source with
      | .error cause => p.fail i (.load job.name cause)
      | .ok none => p.fail i (.noImage job.name)
      | .ok (some image) => p.setPhase i (.loaded image)
    | .loaded image =>
      match p.tree.write job.path (.bytes []) with
      | .error cause => p.fail i (.write job.name (.file cause))
      | .ok tree => { p.setPhase i (.created image) with tree }
    | .created image =>
      if image.width = 0 ∨ image.height = 0 then
        p.fail i (.write job.name (.size image.width image.height))
      else match p.tree.write job.path (.picture image) with
        | .error cause => p.fail i (.write job.name (.file cause))
        | .ok tree =>
          { p.setPhase i .done with tree, bindings := p.bindings ++ [(job.name, job.path)] }
    | .done | .failed => p

/-- The next step of a worker if the device fails it. A worker that waits or has ended takes none. -/
def breakOff (p : Pool) (i : Nat) (reason left : Text) : Pool :=
  match p.workers[i]? with
  | none => p
  | some ⟨job, phase⟩ =>
    match phase with
    | .started => p.fail i (.load job.name (.device reason))
    | .loaded _ => p.fail i (.write job.name (.device reason))
    | .created _ =>
      let p := p.fail i (.write job.name (.device reason))
      match p.tree.write job.path (.bytes left) with
      | .error _ => p
      | .ok tree => { p with tree }
    | .queued | .done | .failed => p

def step (limit : Nat) (p : Pool) : Event → Pool
  | .step i => p.work limit i
  | .fault i reason left => p.breakOff i reason left
  | .cancel => { p with cancelled := true }

def run (limit : Nat) (p : Pool) (events : List Event) : Pool := events.foldl (step limit) p

def sequential (count : Nat) : List Event :=
  (List.range count).flatMap fun i => List.replicate 4 (.step i)

/-- The events of a schedule, after which the workers that are left are finished in turn. -/
def events (p : Pool) (schedule : List Event) : List Event :=
  schedule ++ sequential p.workers.length

def finish (limit : Nat) (p : Pool) (schedule : List Event) : Pool := p.run limit (p.events schedule)

end Pool

def isFileName (name : Text) : Bool :=
  !name.isEmpty && name != Text.ofString "." && name != Text.ofString ".." &&
    !name.contains 0x2f && !name.contains 0x5c && name.isUtf8

def jobs (directory : Text) (textures : List (Text × TextureSource)) : List Job :=
  (textures.mergeSort fun a b => Text.le a.1 b.1).map fun (name, source) =>
    ⟨name, source, Path.join directory (name ++ ".png")⟩

/-- The number of workers at a time. Without a positive limit all may work at once. -/
def workerLimit (concurrency : Int) (count : Nat) : Nat :=
  if concurrency ≤ 0 then count else concurrency.toNat

structure Written where
  /-- The files by name of the texture, in the order in which they were finished. -/
  files : List (Text × Text)
  failure : Option Failure
  tree : FileTree
deriving DecidableEq, Repr

def writeTextures (tree : FileTree) (cancelled : Bool) (directory : Text) (concurrency : Int)
    (textures : List (Text × TextureSource)) (schedule : List Event) : Written :=
  let jobs := jobs directory textures
  if textures.isEmpty then ⟨[], none, tree⟩
  else if directory.isEmpty then ⟨[], some (.noDirectory textures.length), tree⟩
  else match jobs.find? fun j => !isFileName j.name with
    | some j => ⟨[], some (.fileName j.name), tree⟩
    | none =>
      match tree.makeDirectories directory with
      | .error cause => ⟨[], some (.directory cause), tree⟩
      | .ok tree =>
        let pool := (Pool.start tree cancelled jobs).finish
          (workerLimit concurrency jobs.length) schedule
        ⟨pool.bindings, pool.failure, pool.tree⟩

end ShaderGraph.Export
