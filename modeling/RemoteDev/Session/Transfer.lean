import RemoteDev.Session.Basic

/-! Copying files between a disk and the server. A disk maps paths to contents; a path is
writable or not, and a file that cannot be copied leaves the disk as it was. -/
namespace RemoteDev

structure Disk where
  content? : String → Option Bytes
  writable : String → Bool

namespace Disk

def put (d : Disk) (path : String) (data : Bytes) : Disk :=
  { d with content? := fun p => if p = path then some data else d.content? p }

@[simp] theorem content?_put_self (d : Disk) (path : String) (data : Bytes) :
    (d.put path data).content? path = some data := by simp [put]

theorem content?_put_ne (d : Disk) {path p : String} (data : Bytes) (h : p ≠ path) :
    (d.put path data).content? p = d.content? p := by simp [put, h]

end Disk

inductive TransferError where
  /-- A path of the disk leads nowhere. -/
  | notFound
  | command (failure : Failure)

def TransferError.message : TransferError → String
  | notFound => "NotFound"
  | command failure => failure.message

namespace Session

variable {σ : Type}

def upload (t : Transport σ) (s : Session σ) (d : Disk) (localPath remotePath : String) :
    Except TransferError Nat × Session σ :=
  match d.content? localPath with
  | none => (.error .notFound, s)
  | some data =>
    match s.run t (.file (.write remotePath data)) with
    | (.ok _, s') => (.ok data.length, s')
    | (.error f, s') => (.error (.command f), s')

theorem upload_absent (t : Transport σ) (s : Session σ) {d : Disk} {localPath : String}
    (h : d.content? localPath = none) (remotePath : String) :
    s.upload t d localPath remotePath = (.error .notFound, s) := by
  simp [upload, h]

def download (t : Transport σ) (s : Session σ) (d : Disk) (remotePath localPath : String) :
    Except TransferError Nat × Disk × Session σ :=
  match s.run t (.file (.read remotePath)) with
  | (.error f, s') => (.error (.command f), d, s')
  | (.ok content, s') =>
    let content : FileContent := content
    if d.writable localPath then
      (.ok content.data.length, d.put localPath content.data, s')
    else (.error .notFound, d, s')

end Session
end RemoteDev
