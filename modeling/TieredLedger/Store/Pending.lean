import TieredLedger.Store.Directory

/-! Calls on a blob of a store in a directory, as sequences of steps that have the files to themselves. Calls that run
side by side take their steps in any order. -/
namespace TieredLedger.DirectoryStore

inductive FetchPhase
  | start
  | reading (d : Description)
  | noting (d : Description) (data : Bytes)
  | done (answer : Except StoreError Bytes)

inductive DeletePhase
  | start
  | removingBytes
  | removingDescription
  | done (answer : Except StoreError Unit)

/-- A call on a blob and how far it has come. Calls that only look take one step. -/
inductive Pending
  | fetch (now : Instant) (password : Option String) (phase : FetchPhase)
  | delete (phase : DeletePhase)
  | contains (answer : Option (Except StoreError Bool))
  | size (answer : Option (Except StoreError UInt64))
  | describe (answer : Option (Except StoreError Description))

def goOn {α β : Type} (act : StoreM DirectoryStore α) (next : α → β) (failed : StoreError → β) (s : DirectoryStore) :
    β × DirectoryStore :=
  match act.run s with
  | (.ok a, s) => (next a, s)
  | (.error e, s) => (failed e, s)

/-- The next step of getting a blob: to read the description, to read the bytes, to note the access. -/
def FetchPhase.step (handle : String) (now : Instant) (password : Option String) (s : DirectoryStore) :
    FetchPhase → Option (FetchPhase × DirectoryStore)
  | start => some (goOn (DirectoryStore.describe handle) reading (fun e => done (.error e)) s)
  | reading d =>
    let read := do StoreM.ofExcept (unlock d handle (← readBlob handle) password)
    some (goOn read (noting d) (fun e => done (.error e)) s)
  | noting d data =>
    some (goOn (saveDescription { d with accessedAt := some now }) (fun _ => done (.ok data))
      (fun e => done (.error e)) s)
  | done _ => none

/-- The next step of removing a blob: to look for the description, to remove the bytes, to remove the description. -/
def DeletePhase.step (handle : String) (s : DirectoryStore) : DeletePhase → Option (DeletePhase × DirectoryStore)
  | start =>
    if s.tree.contains (descriptionPath s.base handle) then some (removingBytes, s)
    else some (done (.error (.unknownHandle handle)), s)
  | removingBytes =>
    some (goOn (removeFile (blobPath s.base handle)) (fun _ => removingDescription) (fun e => done (.error e)) s)
  | removingDescription =>
    some (goOn (removeFile (descriptionPath s.base handle)) (fun _ => done (.ok ())) (fun e => done (.error e)) s)
  | done _ => none

namespace Pending

def step (handle : String) (s : DirectoryStore) : Pending → Option (Pending × DirectoryStore)
  | fetch now password phase =>
    (phase.step handle now password s).map fun (phase, s) => (fetch now password phase, s)
  | delete phase => (phase.step handle s).map fun (phase, s) => (delete phase, s)
  | contains none =>
    let (answer, s) := (DirectoryStore.contains handle).run s
    some (contains (some answer), s)
  | size none =>
    let (answer, s) := (DirectoryStore.size handle).run s
    some (size (some answer), s)
  | describe none =>
    let (answer, s) := (DirectoryStore.describe handle).run s
    some (describe (some answer), s)
  | contains (some _) | size (some _) | describe (some _) => none

def runAlone (handle : String) (s : DirectoryStore) : Pending → Pending × DirectoryStore
  | fetch now password _ =>
    let (answer, s) := (DirectoryStore.fetch now handle password).run s
    (fetch now password (.done answer), s)
  | delete _ =>
    let (answer, s) := (DirectoryStore.delete handle).run s
    (delete (.done answer), s)
  | contains _ =>
    let (answer, s) := (DirectoryStore.contains handle).run s
    (contains (some answer), s)
  | size _ =>
    let (answer, s) := (DirectoryStore.size handle).run s
    (size (some answer), s)
  | describe _ =>
    let (answer, s) := (DirectoryStore.describe handle).run s
    (describe (some answer), s)

def isFresh : Pending → Bool
  | fetch _ _ .start | delete .start | contains none | size none | describe none => true
  | _ => false

def isDone : Pending → Bool
  | fetch _ _ (.done _) | delete (.done _) | contains (some _) | size (some _) | describe (some _) => true
  | _ => false

def isNoting : Pending → Bool
  | fetch _ _ (.noting _ _) => true
  | _ => false

end Pending

end TieredLedger.DirectoryStore
