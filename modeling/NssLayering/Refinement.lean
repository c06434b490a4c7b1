import NssLayering.Layer

namespace NssLayering

variable {σ : Type} (N : Nspr)

theorem xlateFd_wrappedFileIdent (this : WrappedFileImpl σ) :
    WrapperMethods.xlateFd N this N.wrappedFileIdent = pure this := by
  simp [WrapperMethods.xlateFd, Act.assert]

theorem FileWrapper.wrap_fd (w : FileWrapper N σ) (t : Transport σ) :
    (w.wrap t).fd = ⟨FileWrapper.methods N w.methodsRef.fileType, ⟨t⟩, N.wrappedFileIdent⟩ :=
  congrArg (PRFileDesc.mk · ⟨t⟩ N.wrappedFileIdent) w.methodsRef_eq

theorem countGuard_of_mapAct {cap : Usize} (hcap : cap ≤ i32MaxAsUsize) (r : Result Usize) :
    (r.mapAct (fun len => do
        Act.assert (len ≤ cap) "len <= amount as usize"
        pure (usizeAsI32 len)) >>= acrossFfi : Act σ (Result Usize)) = countGuard cap r := by
  cases r with
  | error e => rfl
  | ok len =>
    by_cases hl : len ≤ cap
    · have hmax : len ≤ i32MaxAsUsize := by unfold i32MaxAsUsize at *; bv_omega
      simp only [Result.mapAct, countGuard, Act.assert_of_pos hl, pure_bind, bind_assoc, acrossFfi]
      exact wrapFfi_pure_success (into_usizeAsI32 hmax)
    · simp only [Result.mapAct, countGuard, Act.assert_of_neg hl]
      rfl

theorem byteCall_byteCallback (this : WrappedFileImpl σ) (buf : Slice)
    (call : Transport σ → Slice → Act σ (Result Usize)) :
    File.byteCall buf (fun amount =>
        WrapperMethods.byteCallback N this N.wrappedFileIdent buf.ptr amount call) =
      forwardBytes buf (call this.inner buf) := by
  unfold File.byteCall forwardBytes
  by_cases hb : buf.len ≤ i32MaxAsUsize
  · simp only [Act.assert_of_pos hb, pure_bind]
    rw [WrapperMethods.byteCallback, wrapFfi_wrapCallback into_neg_one, i32AsUsize_usizeAsI32 hb]
    simp only [xlateFd_wrappedFileIdent, Act.assert_of_pos (sle_zero_usizeAsI32 hb), pure_bind,
      bind_assoc]
    congr 1
    funext r
    exact countGuard_of_mapAct hb r
  · simp only [Act.assert_of_neg hb]
    rfl

theorem acrossFfi_status (r : Result Unit) :
    (acrossFfi (r.map fun () => PRStatus.PR_SUCCESS) : Act σ (Result Unit)) = publish r := by
  cases r <;> rfl

theorem sockAddr_sockAddrCallback (this : WrappedFileImpl σ)
    (call : Transport σ → Act σ (Result SocketAddr)) :
    File.sockAddr N (fun addr => WrapperMethods.sockAddrCallback N this N.wrappedFileIdent addr call) =
      call this.inner >>= readBackAddr N := by
  simp only [File.sockAddr, WrapperMethods.sockAddrCallback, wrapCallback,
    xlateFd_wrappedFileIdent, pure_bind, bind_assoc]
  congr 1
  funext r
  cases r with
  | ok a =>
    simp only [Except.map, pure_bind, wrapFfi_pure_success into_success]
    rfl
  | error e => rfl

variable {N}

theorem FileWrapper.read_wrap (w : FileWrapper N σ) (t : Transport σ) (buf : Slice) :
    (w.wrap t).read buf = forwardBytes buf (t.methods.read buf) := by
  simp only [File.read, PR_Read, File.asRawPrfd, FileWrapper.wrap_fd, FileWrapper.methods,
    WrapperMethods.read]
  exact byteCall_byteCallback N ⟨t⟩ buf fun inner s => inner.methods.read s

theorem FileWrapper.write_wrap (w : FileWrapper N σ) (t : Transport σ) (buf : Slice) :
    (w.wrap t).write buf = forwardBytes buf (t.methods.write buf) := by
  simp only [File.write, PR_Write, File.asRawPrfd, FileWrapper.wrap_fd, FileWrapper.methods,
    WrapperMethods.write]
  exact byteCall_byteCallback N ⟨t⟩ buf fun inner s => inner.methods.write s

theorem FileWrapper.recv_wrap (w : FileWrapper N σ) (t : Transport σ) (buf : Slice) (peek : Bool)
    (timeout : Option Duration) :
    (w.wrap t).recv N buf peek timeout =
      forwardBytes buf (t.methods.recv buf peek (N.timeoutRoundTrip timeout)) := by
  simp only [File.recv, PR_Recv, File.asRawPrfd, FileWrapper.wrap_fd, FileWrapper.methods,
    WrapperMethods.recv, peek_flags_roundtrip]
  exact byteCall_byteCallback N ⟨t⟩ buf fun inner s =>
    inner.methods.recv s peek (N.timeoutRoundTrip timeout)

theorem FileWrapper.send_wrap (w : FileWrapper N σ) (t : Transport σ) (buf : Slice)
    (timeout : Option Duration) :
    (w.wrap t).send N buf timeout =
      forwardBytes buf (t.methods.send buf (N.timeoutRoundTrip timeout)) := by
  simp only [File.send, PR_Send, File.asRawPrfd, FileWrapper.wrap_fd, FileWrapper.methods,
    WrapperMethods.send]
  exact byteCall_byteCallback N ⟨t⟩ buf fun inner s =>
    inner.methods.send s (N.timeoutRoundTrip timeout)

theorem FileWrapper.connect_wrap (w : FileWrapper N σ) (t : Transport σ) (addr : SocketAddr)
    (timeout : Option Duration) :
    (w.wrap t).connect N addr timeout = (t.layer N).methods.connect addr timeout := by
  simp only [File.connect, PR_Connect, File.asRawPrfd, FileWrapper.wrap_fd, FileWrapper.methods,
    WrapperMethods.connect]
  rw [wrapFfi_wrapCallback into_failure]
  simp only [xlateFd_wrappedFileIdent, pure_bind, Transport.layer, Nspr.addrRoundTrip]
  cases N.readNetAddr (N.writeNetAddr addr) with
  | none => rfl
  | some a => simp only [bind_assoc, pure_bind, acrossFfi_status]; rfl

theorem FileWrapper.getsockname_wrap (w : FileWrapper N σ) (t : Transport σ) :
    (w.wrap t).getsockname N = t.methods.getsockname >>= readBackAddr N := by
  simp only [File.getsockname, PR_GetSockName, File.asRawPrfd, FileWrapper.wrap_fd,
    FileWrapper.methods, WrapperMethods.getsockname]
  exact sockAddr_sockAddrCallback N ⟨t⟩ fun inner => inner.methods.getsockname

theorem FileWrapper.getpeername_wrap (w : FileWrapper N σ) (t : Transport σ) :
    (w.wrap t).getpeername N = t.methods.getpeername >>= readBackAddr N := by
  simp only [File.getpeername, PR_GetPeerName, File.asRawPrfd, FileWrapper.wrap_fd,
    FileWrapper.methods, WrapperMethods.getpeername]
  exact sockAddr_sockAddrCallback N ⟨t⟩ fun inner => inner.methods.getpeername

theorem FileWrapper.getNonblocking_wrap (w : FileWrapper N σ) (t : Transport σ) :
    (w.wrap t).getNonblocking N = (t.layer N).methods.getNonblocking := by
  simp only [File.getNonblocking, PR_GetSocketOption, File.asRawPrfd, FileWrapper.wrap_fd,
    FileWrapper.methods, WrapperMethods.getsocketoption, wrapCallback, xlateFd_wrappedFileIdent,
    Transport.layer, pure_bind, bind_assoc, ↓reduceIte]
  congr 1
  funext r
  cases r with
  | ok b => simp only [Except.map, pure_bind, wrapFfi_pure_success into_success]; rfl
  | error e => rfl

theorem FileWrapper.drop_wrap (w : FileWrapper N σ) (t : Transport σ) : (w.wrap t).drop = t.drop := by
  simp only [File.drop, PR_Close, File.asRawPrfd, FileWrapper.wrap_fd, FileWrapper.methods,
    WrapperMethods.close]
  rw [wrapFfi_wrapCallback into_failure]
  simp only [xlateFd_wrappedFileIdent, pure_bind, bind_assoc, acrossFfi,
    wrapFfi_pure_success into_success, bind_pure_unit]

theorem FileWrapper.transport_wrap (w : FileWrapper N σ) (t : Transport σ) :
    (w.wrap t).transport N = t.layer N := by
  ext1
  · ext1
    · funext buf; exact w.read_wrap t buf
    · funext buf; exact w.write_wrap t buf
    · funext addr timeout; exact w.connect_wrap t addr timeout
    · funext buf peek timeout; exact w.recv_wrap t buf peek timeout
    · funext buf timeout; exact w.send_wrap t buf timeout
    · exact w.getsockname_wrap t
    · exact w.getpeername_wrap t
    · exact w.getNonblocking_wrap t
  · exact w.drop_wrap t

end NssLayering
