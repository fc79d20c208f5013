import Scaffold.Host.Layered
import Scaffold.Proofs.InStep

/-!
# Calls of hosts

Everything that can be asked of a host, as data, so that any interleaving of calls is a list. In a
stack of layers each call is made at a height. Whatever reading, writing and creating files keep
is kept by every call, and hosts that are in step over these answer every call alike.
-/

namespace Scaffold

/-- A call of a host. -/
inductive HostCall where
  | read (path : Path)
  | write (path : Path) (content : String)
  /-- Ask whether there is something at the path. -/
  | has (path : Path)
  | ensureFile (path : Path)
  /-- Apply a change on the host. -/
  | apply (change : Change)

/-- What a host answers. -/
inductive HostAnswer where
  /-- The content that was read. -/
  | text (content : String)
  /-- Whether there is something. -/
  | present (there : Bool)
  /-- What was asked for is done. -/
  | done
  deriving Repr, DecidableEq

namespace HostCall

variable {ω χ : Type} [FileHost ω] [FileHost χ]

/-- The call as a task. -/
def task : HostCall → Task ChangeError ω HostAnswer
  | read path => .text <$> FileHost.read path
  | write path content => (fun _ => .done) <$> FileHost.write path content
  | has path => fun host => .ok (.present (FileHost.has path host)) host
  | ensureFile path => (fun _ => .done) <$> FileHost.ensureFile path
  | apply change => (fun _ => .done) <$> change.apply

/-- Whether the call only looks at a file. -/
def looks : HostCall → Bool
  | read _ | has _ => true
  | _ => false

end HostCall

/-- Reading, writing and creating files keep a property of the host. -/
structure KeepsHost {ω : Type} [FileHost ω] (kept : ω → Prop) : Prop where
  /-- Reading and writing any file keep it. -/
  file (path : Path) : KeepsFile kept path
  /-- Creating any file keeps it. -/
  ensureFile (path : Path) :
    Task.Keeps kept (FileHost.ensureFile path : Task ChangeError ω Unit)

/-- Two hosts are in step over every file. -/
structure HostInStep {ω χ : Type} [FileHost ω] [FileHost χ] (related : ω → χ → Prop) : Prop where
  /-- Reading and writing any file are in step. -/
  file (path : Path) : FileInStep related path
  /-- Both know of the same files. -/
  has (path : Path) {left : ω} {right : χ} (h : related left right) :
    FileHost.has path left = FileHost.has path right
  /-- Creating any file is in step. -/
  ensureFile (path : Path) :
    Task.InStep related (FileHost.ensureFile path : Task ChangeError ω Unit)
      (FileHost.ensureFile path)

namespace HostCall

variable {ω χ : Type} [FileHost ω] [FileHost χ]

/-- A call keeps what reading, writing and creating files keep. -/
theorem keeps_task {kept : ω → Prop} (h : KeepsHost kept) (call : HostCall) :
    Task.Keeps kept (call.task : Task ChangeError ω HostAnswer) := by
  cases call with
  | read path => exact Task.keeps_map _ (h.file path).read
  | write path content => exact Task.keeps_map _ ((h.file path).write content)
  | has path => exact fun _ hk => hk
  | ensureFile path => exact Task.keeps_map _ (h.ensureFile path)
  | apply change => exact Task.keeps_map _ (Change.keeps_apply fun path _ => h.file path)

/-- A call that only looks keeps what reading keeps. -/
theorem keeps_task_of_looks {kept : ω → Prop}
    (h : ∀ path, Task.Keeps kept (FileHost.read path : Task ChangeError ω String))
    {call : HostCall} (looking : call.looks = true) :
    Task.Keeps kept (call.task : Task ChangeError ω HostAnswer) := by
  cases call with
  | read path => exact Task.keeps_map _ (h path)
  | has path => exact fun _ hk => hk
  | _ => cases looking

/-- Hosts that are in step over every file answer every call alike and stay in step. -/
theorem inStep_task {related : ω → χ → Prop} (h : HostInStep related) (call : HostCall) :
    Task.InStep related (call.task : Task ChangeError ω HostAnswer) call.task := by
  cases call with
  | read path => exact Task.inStep_map _ (h.file path).read
  | write path content => exact Task.inStep_map _ ((h.file path).write content)
  | has path =>
    intro left right hr
    have hsame := h.has path hr
    exact ⟨congrArg (fun there => Except.ok (HostAnswer.present there)) hsame, hr⟩
  | ensureFile path => exact Task.inStep_map _ (h.ensureFile path)
  | apply change => exact Task.inStep_map _ (Change.inStep_apply fun path _ => h.file path)

end HostCall

/-- Hosts with the same contents are in step. -/
theorem ContentHost.hostInStep {ω χ : Type} [FileHost ω] [FileHost χ] [ContentHost ω]
    [ContentHost χ] : HostInStep fun (left : ω) (right : χ) =>
      ContentHost.contents left = ContentHost.contents right where
  file path := ⟨(mirrors_read path).inStep_of_image (mirrors_read path), fun content =>
    (mirrors_write path content).inStep_of_image (mirrors_write path content)⟩
  has path _ _ h := by rw [← has_contents, h, has_contents]
  ensureFile path := (mirrors_ensureFile path).inStep_of_image (mirrors_ensureFile path)

/-- A call at a height of a stack; at height zero it is made on the host itself. -/
structure HostStep where
  /-- The height. -/
  level : Nat
  /-- The call. -/
  call : HostCall

namespace HostStep

variable {ω : Type} [FileHost ω]

/-- The step as a task on the stack. -/
def task (step : HostStep) : Task ChangeError (Layered ω) HostAnswer :=
  Layered.atHeight step.level step.call.task

/-- The call, if it is made at the height. -/
def at? (level : Nat) (step : HostStep) : Option HostCall :=
  if step.level = level then some step.call else none

end HostStep

end Scaffold
