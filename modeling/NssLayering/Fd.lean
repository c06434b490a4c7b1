import NssLayering.Thread

namespace NssLayering

structure Slice where
  ptr : Usize
  len : Usize
  deriving DecidableEq, Repr

structure Duration where
  secs : UInt64
  nanos : UInt32
  deriving DecidableEq, Repr

inductive SocketAddr where
  | V4 (ip : BitVec 32) (port : UInt16)
  | V6 (ip : BitVec 128) (port : UInt16) (flowinfo scopeId : UInt32)
  deriving DecidableEq, Repr

structure PRNetAddr where
  family : UInt16
  data : List UInt8
  deriving DecidableEq, Repr

abbrev PRSockOption := PRIntn

def PR_SockOpt_Nonblocking : PRSockOption := 0

def PR_FALSE : PRBool := 0

structure PRSocketOptionData where
  option : PRSockOption
  value : PRBool
  deriving DecidableEq, Repr

/-- The helpers of the crate's `nspr` module that `fd.rs` calls, and the identity NSPR hands
out for `WRAPPED_FILE_IDENT`, taken as parameters of the model. -/
structure Nspr where
  wrappedFileIdent : PRDescIdentity
  durationOptToNspr : Option Duration → PRIntervalTime
  durationOptFromNspr : PRIntervalTime → Option Duration
  readNetAddr : PRNetAddr → Option SocketAddr
  writeNetAddr : SocketAddr → PRNetAddr
  netAddrStorage : PRNetAddr
  boolToNspr : Bool → PRBool
  boolFromNspr : PRBool → Bool
  addressNotSupported : Error
  wouldBlock : Error

@[ext]
structure FileMethods (σ : Type) where
  read : Slice → Act σ (Result Usize) := fun _ => unimplemented
  write : Slice → Act σ (Result Usize) := fun _ => unimplemented
  connect : SocketAddr → Option Duration → Act σ (Result Unit) := fun _ _ => unimplemented
  recv : Slice → Bool → Option Duration → Act σ (Result Usize) := fun _ _ _ => unimplemented
  send : Slice → Option Duration → Act σ (Result Usize) := fun _ _ => unimplemented
  getsockname : Act σ (Result SocketAddr) := unimplemented
  getpeername : Act σ (Result SocketAddr) := unimplemented
  getNonblocking : Act σ (Result Bool) := unimplemented

@[ext]
structure Transport (σ : Type) where
  methods : FileMethods σ
  drop : Act σ Unit

structure WrappedFileImpl (σ : Type) where
  inner : Transport σ

structure PRIOMethods (σ : Type) where
  fileType : PRDescType
  close : WrappedFileImpl σ → PRDescIdentity → Act σ PRStatus
  read : WrappedFileImpl σ → PRDescIdentity → Usize → PRInt32 → Act σ PRInt32
  write : WrappedFileImpl σ → PRDescIdentity → Usize → PRInt32 → Act σ PRInt32
  connect : WrappedFileImpl σ → PRDescIdentity → PRNetAddr → PRIntervalTime → Act σ PRStatus
  recv : WrappedFileImpl σ → PRDescIdentity → Usize → PRInt32 → PRIntn → PRIntervalTime →
    Act σ PRInt32
  send : WrappedFileImpl σ → PRDescIdentity → Usize → PRInt32 → PRIntn → PRIntervalTime →
    Act σ PRInt32
  getsockname : WrappedFileImpl σ → PRDescIdentity → PRNetAddr → Act σ (PRStatus × PRNetAddr)
  getpeername : WrappedFileImpl σ → PRDescIdentity → PRNetAddr → Act σ (PRStatus × PRNetAddr)
  getsocketoption : WrappedFileImpl σ → PRDescIdentity → PRSocketOptionData →
    Act σ (PRStatus × PRSocketOptionData)

structure PRFileDesc (σ : Type) where
  methods : PRIOMethods σ
  secret : WrappedFileImpl σ
  identity : PRDescIdentity

structure File (σ : Type) where
  fd : PRFileDesc σ

variable {σ : Type}

def PR_Close (fd : PRFileDesc σ) : Act σ PRStatus :=
  fd.methods.close fd.secret fd.identity

def PR_Read (fd : PRFileDesc σ) (buf : Usize) (amount : PRInt32) : Act σ PRInt32 :=
  fd.methods.read fd.secret fd.identity buf amount

def PR_Write (fd : PRFileDesc σ) (buf : Usize) (amount : PRInt32) : Act σ PRInt32 :=
  fd.methods.write fd.secret fd.identity buf amount

def PR_Connect (fd : PRFileDesc σ) (addr : PRNetAddr) (timeout : PRIntervalTime) :
    Act σ PRStatus :=
  fd.methods.connect fd.secret fd.identity addr timeout

def PR_Recv (fd : PRFileDesc σ) (buf : Usize) (amount : PRInt32) (flags : PRIntn)
    (timeout : PRIntervalTime) : Act σ PRInt32 :=
  fd.methods.recv fd.secret fd.identity buf amount flags timeout

def PR_Send (fd : PRFileDesc σ) (buf : Usize) (amount : PRInt32) (flags : PRIntn)
    (timeout : PRIntervalTime) : Act σ PRInt32 :=
  fd.methods.send fd.secret fd.identity buf amount flags timeout

def PR_GetSockName (fd : PRFileDesc σ) (addr : PRNetAddr) : Act σ (PRStatus × PRNetAddr) :=
  fd.methods.getsockname fd.secret fd.identity addr

def PR_GetPeerName (fd : PRFileDesc σ) (addr : PRNetAddr) : Act σ (PRStatus × PRNetAddr) :=
  fd.methods.getpeername fd.secret fd.identity addr

def PR_GetSocketOption (fd : PRFileDesc σ) (data : PRSocketOptionData) :
    Act σ (PRStatus × PRSocketOptionData) :=
  fd.methods.getsocketoption fd.secret fd.identity data

section

variable (N : Nspr)

namespace File

def asRawPrfd (self : File σ) : PRFileDesc σ := self.fd

def drop (self : File σ) : Act σ Unit := do
  let _status : Result Unit ← wrapFfi (PR_Close self.asRawPrfd)

def byteCall (buf : Slice) (call : PRInt32 → Act σ PRInt32) : Act σ (Result Usize) := do
  Act.assert (buf.len ≤ i32MaxAsUsize) "buf.len() <= i32::MAX as usize"
  wrapFfi (call (usizeAsI32 buf.len))

def read (self : File σ) (buf : Slice) : Act σ (Result Usize) :=
  byteCall buf fun amount => PR_Read self.asRawPrfd buf.ptr amount

def write (self : File σ) (buf : Slice) : Act σ (Result Usize) :=
  byteCall buf fun amount => PR_Write self.asRawPrfd buf.ptr amount

def connect (self : File σ) (addr : SocketAddr) (timeout : Option Duration) :
    Act σ (Result Unit) :=
  wrapFfi (PR_Connect self.asRawPrfd (N.writeNetAddr addr) (N.durationOptToNspr timeout))

def recv (self : File σ) (buf : Slice) (peek : Bool) (timeout : Option Duration) :
    Act σ (Result Usize) :=
  let flags := if peek then PR_MSG_PEEK else 0
  byteCall buf fun amount =>
    PR_Recv self.asRawPrfd buf.ptr amount flags (N.durationOptToNspr timeout)

def send (self : File σ) (buf : Slice) (timeout : Option Duration) : Act σ (Result Usize) :=
  let flags := 0
  byteCall buf fun amount =>
    PR_Send self.asRawPrfd buf.ptr amount flags (N.durationOptToNspr timeout)

def sockAddr (call : PRNetAddr → Act σ (PRStatus × PRNetAddr)) : Act σ (Result SocketAddr) := do
  let (status, buf) ← call N.netAddrStorage
  match ← wrapFfi (pure status) with
  | .error e => pure (.error e)
  | .ok () =>
    match N.readNetAddr buf with
    | some addr => pure (.ok addr)
    | none => pure (.error N.addressNotSupported)

def getsockname (self : File σ) : Act σ (Result SocketAddr) :=
  sockAddr N (PR_GetSockName self.asRawPrfd)

def getpeername (self : File σ) : Act σ (Result SocketAddr) :=
  sockAddr N (PR_GetPeerName self.asRawPrfd)

def getNonblocking (self : File σ) : Act σ (Result Bool) := do
  let (status, buf) ← PR_GetSocketOption self.asRawPrfd ⟨PR_SockOpt_Nonblocking, PR_FALSE⟩
  match ← wrapFfi (pure status) with
  | .error e => pure (.error e)
  | .ok () => pure (.ok (N.boolFromNspr buf.value))

def fileMethods (self : File σ) : FileMethods σ where
  read := self.read
  write := self.write
  connect := self.connect N
  recv := self.recv N
  send := self.send N
  getsockname := self.getsockname N
  getpeername := self.getpeername N
  getNonblocking := self.getNonblocking N

def transport (self : File σ) : Transport σ := ⟨self.fileMethods N, self.drop⟩

end File

namespace WrapperMethods

def xlateFd (this : WrappedFileImpl σ) (identity : PRDescIdentity) :
    Act σ (WrappedFileImpl σ) := do
  Act.assert (identity = N.wrappedFileIdent) "`(left == right)`"
  pure this

def close (this : WrappedFileImpl σ) (identity : PRDescIdentity) : Act σ PRStatus :=
  wrapCallback .PR_FAILURE do
    let this ← xlateFd N this identity
    this.inner.drop
    pure (.ok .PR_SUCCESS)

def byteCallback (this : WrappedFileImpl σ) (identity : PRDescIdentity) (buf : Usize)
    (amount : PRInt32) (call : Transport σ → Slice → Act σ (Result Usize)) : Act σ PRInt32 :=
  wrapCallback (-1) do
    let this ← xlateFd N this identity
    Act.assert (BitVec.sle 0 amount) "amount >= 0"
    let r ← call this.inner ⟨buf, i32AsUsize amount⟩
    r.mapAct fun len => do
      Act.assert (len ≤ i32AsUsize amount) "len <= amount as usize"
      pure (usizeAsI32 len)

def read (this : WrappedFileImpl σ) (identity : PRDescIdentity) (buf : Usize)
    (amount : PRInt32) : Act σ PRInt32 :=
  byteCallback N this identity buf amount fun inner s => inner.methods.read s

def write (this : WrappedFileImpl σ) (identity : PRDescIdentity) (buf : Usize)
    (amount : PRInt32) : Act σ PRInt32 :=
  byteCallback N this identity buf amount fun inner s => inner.methods.write s

def connect (this : WrappedFileImpl σ) (identity : PRDescIdentity) (addr : PRNetAddr)
    (timeout : PRIntervalTime) : Act σ PRStatus :=
  wrapCallback .PR_FAILURE do
    let this ← xlateFd N this identity
    match N.readNetAddr addr with
    | some rustAddr => do
      let r ← this.inner.methods.connect rustAddr (N.durationOptFromNspr timeout)
      pure (r.map fun () => .PR_SUCCESS)
    | none => pure (.error N.addressNotSupported)

def recv (this : WrappedFileImpl σ) (identity : PRDescIdentity) (buf : Usize)
    (amount : PRInt32) (flags : PRIntn) (timeout : PRIntervalTime) : Act σ PRInt32 :=
  byteCallback N this identity buf amount fun inner s =>
    inner.methods.recv s (flags &&& PR_MSG_PEEK != 0) (N.durationOptFromNspr timeout)

def send (this : WrappedFileImpl σ) (identity : PRDescIdentity) (buf : Usize)
    (amount : PRInt32) (_flags : PRIntn) (timeout : PRIntervalTime) : Act σ PRInt32 :=
  byteCallback N this identity buf amount fun inner s =>
    inner.methods.send s (N.durationOptFromNspr timeout)

def sockAddrCallback (this : WrappedFileImpl σ) (identity : PRDescIdentity) (addr : PRNetAddr)
    (call : Transport σ → Act σ (Result SocketAddr)) : Act σ (PRStatus × PRNetAddr) :=
  wrapCallback (.PR_FAILURE, addr) do
    let this ← xlateFd N this identity
    let r ← call this.inner
    pure (r.map fun rustAddr => (.PR_SUCCESS, N.writeNetAddr rustAddr))

def getsockname (this : WrappedFileImpl σ) (identity : PRDescIdentity) (addr : PRNetAddr) :
    Act σ (PRStatus × PRNetAddr) :=
  sockAddrCallback N this identity addr fun inner => inner.methods.getsockname

def getpeername (this : WrappedFileImpl σ) (identity : PRDescIdentity) (addr : PRNetAddr) :
    Act σ (PRStatus × PRNetAddr) :=
  sockAddrCallback N this identity addr fun inner => inner.methods.getpeername

def getsocketoption (this : WrappedFileImpl σ) (identity : PRDescIdentity)
    (data : PRSocketOptionData) : Act σ (PRStatus × PRSocketOptionData) :=
  wrapCallback (.PR_FAILURE, data) do
    let this ← xlateFd N this identity
    if data.option = PR_SockOpt_Nonblocking then
      let r ← this.inner.methods.getNonblocking
      pure (r.map fun b => (.PR_SUCCESS, { data with value := N.boolToNspr b }))
    else
      unimplemented

end WrapperMethods

def FileWrapper.methods (fileType : PRDescType) : PRIOMethods σ where
  fileType := fileType
  close := WrapperMethods.close N
  read := WrapperMethods.read N
  write := WrapperMethods.write N
  connect := WrapperMethods.connect N
  recv := WrapperMethods.recv N
  send := WrapperMethods.send N
  getsockname := WrapperMethods.getsockname N
  getpeername := WrapperMethods.getpeername N
  getsocketoption := WrapperMethods.getsocketoption N

end

structure FileWrapper (N : Nspr) (σ : Type) where
  methodsRef : PRIOMethods σ
  methodsRef_eq : methodsRef = FileWrapper.methods N methodsRef.fileType

namespace FileWrapper

variable {N : Nspr}

def new (N : Nspr) (fileType : PRDescType) : FileWrapper N σ := ⟨methods N fileType, rfl⟩

def wrap (self : FileWrapper N σ) (inner : Transport σ) : File σ :=
  ⟨{ methods := self.methodsRef, secret := ⟨inner⟩, identity := N.wrappedFileIdent }⟩

end FileWrapper

end NssLayering
