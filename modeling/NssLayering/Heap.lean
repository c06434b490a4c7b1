import NssLayering.Fd
import Mathlib.Logic.Function.Basic

namespace NssLayering

namespace Heap

abbrev RawFile := Nat

def null : RawFile := 0

structure PRFileDesc where
  methods : Nat
  secret : Nat
  identity : PRDescIdentity
  deriving DecidableEq, Repr

structure File where
  raw : RawFile
  deriving DecidableEq, Repr

structure BorrowedFile where
  raw : RawFile
  deriving DecidableEq, Repr

/-- What a box wraps: an owned `File`, or a user transport. A user transport is a leaf of the
model: its methods are arbitrary actions, but it owns no `File` or `FileWrapper`, and its drop only
ends its own life, which memory records by its id. -/
inductive Inner where
  | file (f : File)
  | leaf (id : Nat)
  deriving DecidableEq, Repr

structure WrappedFileImpl where
  prfd : PRFileDesc
  methodsRef : Nat
  inner : Inner
  deriving DecidableEq, Repr

structure ArcInner where
  strong : Nat
  fileType : PRDescType
  deriving DecidableEq, Repr

structure FileWrapper where
  methodsRef : Nat
  deriving DecidableEq, Repr

structure Mem where
  boxes : Nat → Option WrappedFileImpl
  tables : Nat → Option ArcInner
  next : Nat
  dropped : List Nat

def Mem.empty : Mem := ⟨fun _ => none, fun _ => none, 1, []⟩

namespace Mem

def setBox (m : Mem) (p : Nat) (v : Option WrappedFileImpl) : Mem :=
  { m with boxes := Function.update m.boxes p v }

def setTable (m : Mem) (t : Nat) (v : Option ArcInner) : Mem :=
  { m with tables := Function.update m.tables t v }

def alloc (m : Mem) (v : WrappedFileImpl) : Mem :=
  { m.setBox m.next (some v) with next := m.next + 1 }

def arcAlloc (m : Mem) (a : ArcInner) : Mem :=
  { m.setTable m.next (some a) with next := m.next + 1 }

def arcRetain (m : Mem) (t : Nat) : Mem :=
  match m.tables t with
  | some a => m.setTable t (some { a with strong := a.strong + 1 })
  | none => m

def arcRelease (m : Mem) (t : Nat) : Mem :=
  match m.tables t with
  | some a => if a.strong = 1 then m.setTable t none else m.setTable t (some { a with strong := a.strong - 1 })
  | none => m

def logDrop (m : Mem) (id : Nat) : Mem := { m with dropped := m.dropped ++ [id] }

def strongOf (m : Mem) (t : Nat) : Nat := ((m.tables t).map ArcInner.strong).getD 0

end Mem

def danglingPointer : String := "dangling pointer"

def outOfFuel : String := "out of fuel"

def getMem : Act Mem Mem := do return (← get).ext

def setMem (m : Mem) : Act Mem Unit := modify fun w => { w with ext := m }

def deref (p : Nat) : Act Mem WrappedFileImpl := do
  match (← getMem).boxes p with
  | some impl => pure impl
  | none => throw danglingPointer

def readDesc (fd : RawFile) : Act Mem PRFileDesc := do return (← deref fd).prfd

def readTable (t : Nat) : Act Mem ArcInner := do
  match (← getMem).tables t with
  | some a => pure a
  | none => throw danglingPointer

def boxNew (v : WrappedFileImpl) : Act Mem Nat := do
  let m ← getMem
  setMem (m.alloc v)
  pure m.next

def boxFree (p : Nat) : Act Mem Unit := do
  let _ ← deref p
  setMem ((← getMem).setBox p none)

def writeSecret (fd : RawFile) (secret : Nat) : Act Mem Unit := do
  let impl ← deref fd
  setMem ((← getMem).setBox fd (some { impl with prfd := { impl.prfd with secret := secret } }))

def arcNew (fileType : PRDescType) : Act Mem Nat := do
  let m ← getMem
  setMem (m.arcAlloc ⟨1, fileType⟩)
  pure m.next

def arcClone (t : Nat) : Act Mem Unit := do
  let _ ← readTable t
  setMem ((← getMem).arcRetain t)

def arcDrop (t : Nat) : Act Mem Unit := do
  let _ ← readTable t
  setMem ((← getMem).arcRelease t)

namespace File

def asRawPrfd (self : File) : Act Mem RawFile := do
  Act.assert (self.raw ≠ null) "self.0 != null()"
  pure self.raw

def intoRawPrfd (self : File) : Act Mem RawFile := self.asRawPrfd

def fromRawPrfd (fd : RawFile) : Act Mem File := do
  Act.assert (fd ≠ null) "fd != null()"
  pure ⟨fd⟩

def fromRawPrfdOpt (fd : RawFile) : Act Mem (Option File) :=
  if fd = null then pure none else some <$> fromRawPrfd fd

def fromRawPrfdErr (fd : RawFile) : Act Mem (GenStatus File) :=
  if fd = null then pure .ErrorFromC else GenStatus.Success <$> fromRawPrfd fd

def unsafeGetRef (self : File) : Act Mem Nat := do
  let fd ← self.asRawPrfd
  return (← readDesc fd).secret

def unsafeGetMut (self : File) : Act Mem Nat := self.unsafeGetRef

end File

namespace BorrowedFile

def fromRawPrfd (fd : RawFile) : Act Mem BorrowedFile := do
  Act.assert (fd ≠ null) "fd != null()"
  pure ⟨fd⟩

def fromRawPrfdChecked (fd : RawFile) (ident : PRDescIdentity) : Act Mem BorrowedFile := do
  let desc ← readDesc fd
  Act.assert (desc.identity = ident) "`(left == right)`"
  fromRawPrfd fd

def getRef (self : BorrowedFile) : Act Mem Nat := File.unsafeGetRef ⟨self.raw⟩

def getMut (self : BorrowedFile) : Act Mem Nat := File.unsafeGetMut ⟨self.raw⟩

end BorrowedFile

structure PRIOMethods where
  close : RawFile → Act Mem PRStatus
  read : RawFile → Usize → PRInt32 → Act Mem PRInt32
  write : RawFile → Usize → PRInt32 → Act Mem PRInt32
  connect : RawFile → PRNetAddr → PRIntervalTime → Act Mem PRStatus
  recv : RawFile → Usize → PRInt32 → PRIntn → PRIntervalTime → Act Mem PRInt32
  send : RawFile → Usize → PRInt32 → PRIntn → PRIntervalTime → Act Mem PRInt32
  getsockname : RawFile → PRNetAddr → Act Mem (PRStatus × PRNetAddr)
  getpeername : RawFile → PRNetAddr → Act Mem (PRStatus × PRNetAddr)
  getsocketoption : RawFile → PRSocketOptionData → Act Mem (PRStatus × PRSocketOptionData)

def dispatch {α : Type} (fd : RawFile) (entry : Act Mem α) : Act Mem α := do
  let desc ← readDesc fd
  let _ ← readTable desc.methods
  entry

section

variable (methods : PRIOMethods)

def PR_Close (fd : RawFile) : Act Mem PRStatus := dispatch fd (methods.close fd)

def PR_Read (fd : RawFile) (buf : Usize) (amount : PRInt32) : Act Mem PRInt32 :=
  dispatch fd (methods.read fd buf amount)

def PR_Write (fd : RawFile) (buf : Usize) (amount : PRInt32) : Act Mem PRInt32 :=
  dispatch fd (methods.write fd buf amount)

def PR_Connect (fd : RawFile) (addr : PRNetAddr) (timeout : PRIntervalTime) : Act Mem PRStatus :=
  dispatch fd (methods.connect fd addr timeout)

def PR_Recv (fd : RawFile) (buf : Usize) (amount : PRInt32) (flags : PRIntn)
    (timeout : PRIntervalTime) : Act Mem PRInt32 :=
  dispatch fd (methods.recv fd buf amount flags timeout)

def PR_Send (fd : RawFile) (buf : Usize) (amount : PRInt32) (flags : PRIntn)
    (timeout : PRIntervalTime) : Act Mem PRInt32 :=
  dispatch fd (methods.send fd buf amount flags timeout)

def PR_GetSockName (fd : RawFile) (addr : PRNetAddr) : Act Mem (PRStatus × PRNetAddr) :=
  dispatch fd (methods.getsockname fd addr)

def PR_GetPeerName (fd : RawFile) (addr : PRNetAddr) : Act Mem (PRStatus × PRNetAddr) :=
  dispatch fd (methods.getpeername fd addr)

def PR_GetSocketOption (fd : RawFile) (data : PRSocketOptionData) :
    Act Mem (PRStatus × PRSocketOptionData) :=
  dispatch fd (methods.getsocketoption fd data)

end

variable (N : Nspr)

namespace File

variable (methods : PRIOMethods)

def drop (self : File) : Act Mem File := do
  let fd := self.raw
  if fd ≠ null then
    let _status : Result Unit ← wrapFfi (PR_Close methods fd)
  pure ⟨null⟩

def read (self : File) (buf : Slice) : Act Mem (Result Usize) :=
  NssLayering.File.byteCall buf fun amount => do PR_Read methods (← self.asRawPrfd) buf.ptr amount

def write (self : File) (buf : Slice) : Act Mem (Result Usize) :=
  NssLayering.File.byteCall buf fun amount => do PR_Write methods (← self.asRawPrfd) buf.ptr amount

def connect (self : File) (addr : SocketAddr) (timeout : Option Duration) : Act Mem (Result Unit) :=
  wrapFfi do
    PR_Connect methods (← self.asRawPrfd) (N.writeNetAddr addr) (N.durationOptToNspr timeout)

def recv (self : File) (buf : Slice) (peek : Bool) (timeout : Option Duration) :
    Act Mem (Result Usize) :=
  let flags := if peek then PR_MSG_PEEK else 0
  NssLayering.File.byteCall buf fun amount => do
    PR_Recv methods (← self.asRawPrfd) buf.ptr amount flags (N.durationOptToNspr timeout)

def send (self : File) (buf : Slice) (timeout : Option Duration) : Act Mem (Result Usize) :=
  let flags := 0
  NssLayering.File.byteCall buf fun amount => do
    PR_Send methods (← self.asRawPrfd) buf.ptr amount flags (N.durationOptToNspr timeout)

def getsockname (self : File) : Act Mem (Result SocketAddr) :=
  NssLayering.File.sockAddr N fun buf => do PR_GetSockName methods (← self.asRawPrfd) buf

def getpeername (self : File) : Act Mem (Result SocketAddr) :=
  NssLayering.File.sockAddr N fun buf => do PR_GetPeerName methods (← self.asRawPrfd) buf

def getNonblocking (self : File) : Act Mem (Result Bool) := do
  let (status, buf) ← PR_GetSocketOption methods (← self.asRawPrfd)
    ⟨PR_SockOpt_Nonblocking, PR_FALSE⟩
  match ← wrapFfi (pure status) with
  | .error e => pure (.error e)
  | .ok () => pure (.ok (N.boolFromNspr buf.value))

def fileMethods (self : File) : FileMethods Mem where
  read := self.read methods
  write := self.write methods
  connect := self.connect N methods
  recv := self.recv N methods
  send := self.send N methods
  getsockname := self.getsockname N methods
  getpeername := self.getpeername N methods
  getNonblocking := self.getNonblocking N methods

end File

def Inner.methods (file : File → FileMethods Mem) (leaves : Nat → FileMethods Mem) :
    Inner → FileMethods Mem
  | .file f => file f
  | .leaf id => leaves id

def Inner.drop (file : File → Act Mem File) : Inner → Act Mem Unit
  | .file f => do
    let _ ← file f
  | .leaf id => do setMem ((← getMem).logDrop id)

namespace WrapperMethods

def xlateFd (fd : RawFile) : Act Mem BorrowedFile :=
  BorrowedFile.fromRawPrfdChecked fd N.wrappedFileIdent

def close (dropInner : Inner → Act Mem Unit) (fd : RawFile) : Act Mem PRStatus :=
  wrapCallback .PR_FAILURE do
    let this ← xlateFd N fd
    let rawBox ← this.getMut
    let impl ← deref rawBox
    Act.assert (rawBox = fd) "`(left == right)`"
    arcDrop impl.methodsRef
    dropInner impl.inner
    boxFree rawBox
    pure (.ok .PR_SUCCESS)

variable (inner : Inner → FileMethods Mem)

def byteCallback (fd : RawFile) (buf : Usize) (amount : PRInt32)
    (call : FileMethods Mem → Slice → Act Mem (Result Usize)) : Act Mem PRInt32 :=
  wrapCallback (-1) do
    let this ← xlateFd N fd
    Act.assert (BitVec.sle 0 amount) "amount >= 0"
    let impl ← deref (← this.getRef)
    let r ← call (inner impl.inner) ⟨buf, i32AsUsize amount⟩
    r.mapAct fun len => do
      Act.assert (len ≤ i32AsUsize amount) "len <= amount as usize"
      pure (usizeAsI32 len)

def read (fd : RawFile) (buf : Usize) (amount : PRInt32) : Act Mem PRInt32 :=
  byteCallback N inner fd buf amount fun m s => m.read s

def write (fd : RawFile) (buf : Usize) (amount : PRInt32) : Act Mem PRInt32 :=
  byteCallback N inner fd buf amount fun m s => m.write s

def connect (fd : RawFile) (addr : PRNetAddr) (timeout : PRIntervalTime) : Act Mem PRStatus :=
  wrapCallback .PR_FAILURE do
    let this ← xlateFd N fd
    match N.readNetAddr addr with
    | some rustAddr => do
      let impl ← deref (← this.getRef)
      let r ← (inner impl.inner).connect rustAddr (N.durationOptFromNspr timeout)
      pure (r.map fun () => .PR_SUCCESS)
    | none => pure (.error N.addressNotSupported)

def recv (fd : RawFile) (buf : Usize) (amount : PRInt32) (flags : PRIntn)
    (timeout : PRIntervalTime) : Act Mem PRInt32 :=
  byteCallback N inner fd buf amount fun m s =>
    m.recv s (flags &&& PR_MSG_PEEK != 0) (N.durationOptFromNspr timeout)

def send (fd : RawFile) (buf : Usize) (amount : PRInt32) (_flags : PRIntn)
    (timeout : PRIntervalTime) : Act Mem PRInt32 :=
  byteCallback N inner fd buf amount fun m s => m.send s (N.durationOptFromNspr timeout)

def sockAddrCallback (fd : RawFile) (addr : PRNetAddr)
    (call : FileMethods Mem → Act Mem (Result SocketAddr)) : Act Mem (PRStatus × PRNetAddr) :=
  wrapCallback (.PR_FAILURE, addr) do
    let this ← xlateFd N fd
    let impl ← deref (← this.getRef)
    let r ← call (inner impl.inner)
    pure (r.map fun rustAddr => (.PR_SUCCESS, N.writeNetAddr rustAddr))

def getsockname (fd : RawFile) (addr : PRNetAddr) : Act Mem (PRStatus × PRNetAddr) :=
  sockAddrCallback N inner fd addr fun m => m.getsockname

def getpeername (fd : RawFile) (addr : PRNetAddr) : Act Mem (PRStatus × PRNetAddr) :=
  sockAddrCallback N inner fd addr fun m => m.getpeername

def getsocketoption (fd : RawFile) (data : PRSocketOptionData) :
    Act Mem (PRStatus × PRSocketOptionData) :=
  wrapCallback (.PR_FAILURE, data) do
    let this ← xlateFd N fd
    if data.option = PR_SockOpt_Nonblocking then
      let impl ← deref (← this.getRef)
      let r ← (inner impl.inner).getNonblocking
      pure (r.map fun b => (.PR_SUCCESS, { data with value := N.boolToNspr b }))
    else
      unimplemented

end WrapperMethods

namespace FileWrapper

def methods (inner : Inner → FileMethods Mem) (dropInner : Inner → Act Mem Unit) : PRIOMethods where
  close := WrapperMethods.close N dropInner
  read := WrapperMethods.read N inner
  write := WrapperMethods.write N inner
  connect := WrapperMethods.connect N inner
  recv := WrapperMethods.recv N inner
  send := WrapperMethods.send N inner
  getsockname := WrapperMethods.getsockname N inner
  getpeername := WrapperMethods.getpeername N inner
  getsocketoption := WrapperMethods.getsocketoption N inner

def new (fileType : PRDescType) : Act Mem FileWrapper := do
  let methodsRef ← arcNew fileType
  pure ⟨methodsRef⟩

def drop (self : FileWrapper) : Act Mem Unit := arcDrop self.methodsRef

def wrap (self : FileWrapper) (inner : Inner) : Act Mem File := do
  let methodsRaw := self.methodsRef
  arcClone self.methodsRef
  let boxed ← boxNew ⟨⟨methodsRaw, null, N.wrappedFileIdent⟩, self.methodsRef, inner⟩
  let raw : RawFile := boxed
  writeSecret raw boxed
  File.fromRawPrfd raw

end FileWrapper

def PRIOMethods.exhausted : PRIOMethods where
  close _ := throw outOfFuel
  read _ _ _ := throw outOfFuel
  write _ _ _ := throw outOfFuel
  connect _ _ _ := throw outOfFuel
  recv _ _ _ _ _ := throw outOfFuel
  send _ _ _ _ _ := throw outOfFuel
  getsockname _ _ := throw outOfFuel
  getpeername _ _ := throw outOfFuel
  getsocketoption _ _ := throw outOfFuel

def methodsAt (leaves : Nat → FileMethods Mem) : Nat → PRIOMethods
  | 0 => .exhausted
  | n + 1 =>
    FileWrapper.methods N (Inner.methods (File.fileMethods N (methodsAt leaves n)) leaves)
      (Inner.drop (File.drop (methodsAt leaves n)))

end Heap

end NssLayering
