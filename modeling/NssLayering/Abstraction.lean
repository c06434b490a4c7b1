import NssLayering.Lifecycle
import NssLayering.Nesting

namespace NssLayering

namespace Heap

def EqOn {α : Type} (m : Mem) (x y : Act Mem α) : Prop := ∀ e, x.run ⟨e, m⟩ = y.run ⟨e, m⟩

section

variable {m : Mem} {α β : Type}

theorem EqOn.bind {x y : Act Mem α} {f g : α → Act Mem β} (h : EqOn m x y) (hfg : ∀ a, f a = g a) :
    EqOn m (x >>= f) (y >>= g) := fun e => by
  rw [StateT.run_bind, StateT.run_bind, h e, funext hfg]

theorem EqOn.bind_left {x : Act Mem α} {a : α} (hx : ∀ e, x.run ⟨e, m⟩ = .ok (a, ⟨e, m⟩))
    {f : α → Act Mem β} {y : Act Mem β} (h : EqOn m (f a) y) : EqOn m (x >>= f) y :=
  fun e => (run_bind_of_run (hx e)).trans (h e)

theorem EqOn.assert (c : Prop) [Decidable c] (msg : String) {x y : Act Mem β} (h : c → EqOn m x y) :
    EqOn m (Act.assert c msg >>= fun _ => x) (Act.assert c msg >>= fun _ => y) := by
  by_cases hc : c
  · simp only [Act.assert_of_pos hc, pure_bind]
    exact h hc
  · simp only [Act.assert_of_neg hc]
    exact fun _ => rfl

theorem EqOn.trans_eq {x y z : Act Mem α} (h : EqOn m x y) (hyz : y = z) : EqOn m x z := hyz ▸ h

theorem EqOn.dispatch {fd : RawFile} {v : WrappedFileImpl} {a : ArcInner}
    (hbox : m.boxes fd = some v) (ht : m.tables v.prfd.methods = some a) {x y : Act Mem α}
    (h : EqOn m x y) : EqOn m (dispatch fd x) y :=
  fun _ => (dispatch_run x hbox ht).trans (h _)

theorem EqOn.wrapFfi {S T : Type} [IntoGenStatus S T] {x y : Act Mem S} (h : EqOn m x y) :
    EqOn m (wrapFfi x : Act Mem (Result T)) (wrapFfi y) :=
  h.bind fun _ => rfl

theorem EqOn.wrapCallback {S : Type} (fail : S) {x y : Act Mem (Result S)} (h : EqOn m x y) :
    EqOn m (wrapCallback fail x) (wrapCallback fail y) :=
  h.bind fun _ => rfl

theorem EqOn.byteCall (buf : Slice) {c₁ c₂ : PRInt32 → Act Mem PRInt32}
    (h : ∀ amount, EqOn m (c₁ amount) (c₂ amount)) :
    EqOn m (NssLayering.File.byteCall buf c₁) (NssLayering.File.byteCall buf c₂) :=
  EqOn.assert _ _ fun _ => (h _).wrapFfi

theorem EqOn.sockAddr (N : Nspr) {c₁ c₂ : PRNetAddr → Act Mem (PRStatus × PRNetAddr)}
    (h : ∀ addr, EqOn m (c₁ addr) (c₂ addr)) :
    EqOn m (NssLayering.File.sockAddr N c₁) (NssLayering.File.sockAddr N c₂) :=
  (h _).bind fun _ => rfl

end

structure MethodsEqOn (m : Mem) (M₁ M₂ : FileMethods Mem) : Prop where
  read : ∀ buf, EqOn m (M₁.read buf) (M₂.read buf)
  write : ∀ buf, EqOn m (M₁.write buf) (M₂.write buf)
  connect : ∀ addr timeout, EqOn m (M₁.connect addr timeout) (M₂.connect addr timeout)
  recv : ∀ buf peek timeout, EqOn m (M₁.recv buf peek timeout) (M₂.recv buf peek timeout)
  send : ∀ buf timeout, EqOn m (M₁.send buf timeout) (M₂.send buf timeout)
  getsockname : EqOn m M₁.getsockname M₂.getsockname
  getpeername : EqOn m M₁.getpeername M₂.getpeername
  getNonblocking : EqOn m M₁.getNonblocking M₂.getNonblocking

theorem MethodsEqOn.refl (m : Mem) (M : FileMethods Mem) : MethodsEqOn m M M :=
  ⟨fun _ _ => rfl, fun _ _ => rfl, fun _ _ _ => rfl, fun _ _ _ _ => rfl, fun _ _ _ => rfl,
    fun _ => rfl, fun _ => rfl, fun _ => rfl⟩

variable (N : Nspr) {m : Mem} {inner : Inner → FileMethods Mem} {fd t : Nat} {i : Inner}
  {T : Transport Mem}

section Entry

variable (hfd : fd ≠ null) (hbox : m.boxes fd = some ⟨⟨t, fd, N.wrappedFileIdent⟩, t, i⟩)
include hfd hbox

theorem byteCallback_eqOn (buf : Usize) (amount : PRInt32)
    (call₁ : FileMethods Mem → Slice → Act Mem (Result Usize))
    (call₂ : Transport Mem → Slice → Act Mem (Result Usize))
    (hcall : ∀ s, EqOn m (call₁ (inner i) s) (call₂ T s)) :
    EqOn m (WrapperMethods.byteCallback N inner fd buf amount call₁)
      (NssLayering.WrapperMethods.byteCallback N ⟨T⟩ N.wrappedFileIdent buf amount call₂) := by
  unfold WrapperMethods.byteCallback NssLayering.WrapperMethods.byteCallback
  refine EqOn.wrapCallback _ ?_
  rw [xlateFd_wrappedFileIdent, pure_bind]
  refine EqOn.bind_left (fun _ => xlateFd_run N hfd hbox rfl) (EqOn.assert _ _ fun _ => ?_)
  refine EqOn.bind_left (fun _ => getRef_run hfd hbox) (EqOn.bind_left (fun _ => deref_run hbox) ?_)
  exact (hcall _).bind fun _ => rfl

theorem connect_eqOn (addr : PRNetAddr) (timeout : PRIntervalTime)
    (hcall : ∀ a d, EqOn m ((inner i).connect a d) (T.methods.connect a d)) :
    EqOn m (WrapperMethods.connect N inner fd addr timeout)
      (NssLayering.WrapperMethods.connect N ⟨T⟩ N.wrappedFileIdent addr timeout) := by
  unfold WrapperMethods.connect NssLayering.WrapperMethods.connect
  refine EqOn.wrapCallback _ ?_
  rw [xlateFd_wrappedFileIdent, pure_bind]
  refine EqOn.bind_left (fun _ => xlateFd_run N hfd hbox rfl) ?_
  cases N.readNetAddr addr with
  | none => exact fun _ => rfl
  | some a =>
    refine EqOn.bind_left (fun _ => getRef_run hfd hbox) (EqOn.bind_left (fun _ => deref_run hbox) ?_)
    exact (hcall _ _).bind fun _ => rfl

theorem sockAddrCallback_eqOn (addr : PRNetAddr) (call₁ : FileMethods Mem → Act Mem (Result SocketAddr))
    (call₂ : Transport Mem → Act Mem (Result SocketAddr)) (hcall : EqOn m (call₁ (inner i)) (call₂ T)) :
    EqOn m (WrapperMethods.sockAddrCallback N inner fd addr call₁)
      (NssLayering.WrapperMethods.sockAddrCallback N ⟨T⟩ N.wrappedFileIdent addr call₂) := by
  unfold WrapperMethods.sockAddrCallback NssLayering.WrapperMethods.sockAddrCallback
  refine EqOn.wrapCallback _ ?_
  rw [xlateFd_wrappedFileIdent, pure_bind]
  refine EqOn.bind_left (fun _ => xlateFd_run N hfd hbox rfl) ?_
  refine EqOn.bind_left (fun _ => getRef_run hfd hbox) (EqOn.bind_left (fun _ => deref_run hbox) ?_)
  exact hcall.bind fun _ => rfl

theorem getsocketoption_eqOn (data : PRSocketOptionData)
    (hcall : EqOn m (inner i).getNonblocking T.methods.getNonblocking) :
    EqOn m (WrapperMethods.getsocketoption N inner fd data)
      (NssLayering.WrapperMethods.getsocketoption N ⟨T⟩ N.wrappedFileIdent data) := by
  unfold WrapperMethods.getsocketoption NssLayering.WrapperMethods.getsocketoption
  refine EqOn.wrapCallback _ ?_
  rw [xlateFd_wrappedFileIdent, pure_bind]
  refine EqOn.bind_left (fun _ => xlateFd_run N hfd hbox rfl) ?_
  by_cases hopt : data.option = PR_SockOpt_Nonblocking
  · rw [if_pos hopt, if_pos hopt]
    refine EqOn.bind_left (fun _ => getRef_run hfd hbox) (EqOn.bind_left (fun _ => deref_run hbox) ?_)
    exact hcall.bind fun _ => rfl
  · rw [if_neg hopt, if_neg hopt]
    exact fun _ => rfl

variable {a : ArcInner} (ht : m.tables t = some a) (hi : MethodsEqOn m (inner i) T.methods)
  (dropInner : Inner → Act Mem Unit)
include ht hi

theorem read_eqOn_wrap (buf : Slice) :
    EqOn m (File.read (FileWrapper.methods N inner dropInner) ⟨fd⟩ buf)
      (((NssLayering.FileWrapper.new N a.fileType).wrap T).read buf) := by
  refine EqOn.byteCall buf fun _ => EqOn.bind_left (fun _ => asRawPrfd_run hfd) ?_
  exact EqOn.dispatch hbox ht (byteCallback_eqOn N hfd hbox _ _ _
    (fun t s => t.methods.read s) hi.read)

theorem write_eqOn_wrap (buf : Slice) :
    EqOn m (File.write (FileWrapper.methods N inner dropInner) ⟨fd⟩ buf)
      (((NssLayering.FileWrapper.new N a.fileType).wrap T).write buf) := by
  refine EqOn.byteCall buf fun _ => EqOn.bind_left (fun _ => asRawPrfd_run hfd) ?_
  exact EqOn.dispatch hbox ht (byteCallback_eqOn N hfd hbox _ _ _
    (fun t s => t.methods.write s) hi.write)

theorem recv_eqOn_wrap (buf : Slice) (peek : Bool) (timeout : Option Duration) :
    EqOn m (File.recv N (FileWrapper.methods N inner dropInner) ⟨fd⟩ buf peek timeout)
      (((NssLayering.FileWrapper.new N a.fileType).wrap T).recv N buf peek timeout) := by
  dsimp only [File.recv, NssLayering.File.recv]
  refine EqOn.byteCall buf fun _ => EqOn.bind_left (fun _ => asRawPrfd_run hfd) ?_
  refine EqOn.dispatch hbox ht ?_
  exact byteCallback_eqOn N hfd hbox _ _
    (fun m s => m.recv s ((if peek then PR_MSG_PEEK else 0) &&& PR_MSG_PEEK != 0)
      (N.durationOptFromNspr (N.durationOptToNspr timeout)))
    (fun t s => t.methods.recv s ((if peek then PR_MSG_PEEK else 0) &&& PR_MSG_PEEK != 0)
      (N.durationOptFromNspr (N.durationOptToNspr timeout))) fun _ => hi.recv _ _ _

theorem send_eqOn_wrap (buf : Slice) (timeout : Option Duration) :
    EqOn m (File.send N (FileWrapper.methods N inner dropInner) ⟨fd⟩ buf timeout)
      (((NssLayering.FileWrapper.new N a.fileType).wrap T).send N buf timeout) := by
  dsimp only [File.send, NssLayering.File.send]
  refine EqOn.byteCall buf fun _ => EqOn.bind_left (fun _ => asRawPrfd_run hfd) ?_
  refine EqOn.dispatch hbox ht ?_
  exact byteCallback_eqOn N hfd hbox _ _
    (fun m s => m.send s (N.durationOptFromNspr (N.durationOptToNspr timeout)))
    (fun t s => t.methods.send s (N.durationOptFromNspr (N.durationOptToNspr timeout)))
    fun _ => hi.send _ _

theorem connect_eqOn_wrap (addr : SocketAddr) (timeout : Option Duration) :
    EqOn m (File.connect N (FileWrapper.methods N inner dropInner) ⟨fd⟩ addr timeout)
      (((NssLayering.FileWrapper.new N a.fileType).wrap T).connect N addr timeout) := by
  refine EqOn.wrapFfi (EqOn.bind_left (fun _ => asRawPrfd_run hfd) ?_)
  exact EqOn.dispatch hbox ht (connect_eqOn N hfd hbox _ _ hi.connect)

theorem getsockname_eqOn_wrap :
    EqOn m (File.getsockname N (FileWrapper.methods N inner dropInner) ⟨fd⟩)
      (((NssLayering.FileWrapper.new N a.fileType).wrap T).getsockname N) := by
  refine EqOn.sockAddr N fun _ => EqOn.bind_left (fun _ => asRawPrfd_run hfd) ?_
  exact EqOn.dispatch hbox ht (sockAddrCallback_eqOn N hfd hbox _ _
    (fun t => t.methods.getsockname) hi.getsockname)

theorem getpeername_eqOn_wrap :
    EqOn m (File.getpeername N (FileWrapper.methods N inner dropInner) ⟨fd⟩)
      (((NssLayering.FileWrapper.new N a.fileType).wrap T).getpeername N) := by
  refine EqOn.sockAddr N fun _ => EqOn.bind_left (fun _ => asRawPrfd_run hfd) ?_
  exact EqOn.dispatch hbox ht (sockAddrCallback_eqOn N hfd hbox _ _
    (fun t => t.methods.getpeername) hi.getpeername)

theorem getNonblocking_eqOn_wrap :
    EqOn m (File.getNonblocking N (FileWrapper.methods N inner dropInner) ⟨fd⟩)
      (((NssLayering.FileWrapper.new N a.fileType).wrap T).getNonblocking N) := by
  refine EqOn.bind_left (fun _ => asRawPrfd_run hfd) (EqOn.bind ?_ fun _ => rfl)
  exact EqOn.dispatch hbox ht (getsocketoption_eqOn N hfd hbox _ hi.getNonblocking)

theorem fileMethods_eqOn_layer :
    MethodsEqOn m (File.fileMethods N (FileWrapper.methods N inner dropInner) ⟨fd⟩)
      (T.layer N).methods := by
  rw [← (NssLayering.FileWrapper.new N a.fileType).transport_wrap T]
  exact ⟨read_eqOn_wrap N hfd hbox ht hi dropInner, write_eqOn_wrap N hfd hbox ht hi dropInner,
    connect_eqOn_wrap N hfd hbox ht hi dropInner, recv_eqOn_wrap N hfd hbox ht hi dropInner,
    send_eqOn_wrap N hfd hbox ht hi dropInner, getsockname_eqOn_wrap N hfd hbox ht hi dropInner,
    getpeername_eqOn_wrap N hfd hbox ht hi dropInner, getNonblocking_eqOn_wrap N hfd hbox ht hi dropInner⟩

end Entry

def leafTransport (leaves : Nat → FileMethods Mem) (id : Nat) : Transport Mem :=
  ⟨leaves id, do setMem ((← getMem).logDrop id)⟩

theorem Chain.methodsEqOn_layer (leaves : Nat → FileMethods Mem) {f : RawFile} {bs : List (Nat × Nat)}
    {id : Nat} (hc : Chain N m.boxes f bs id) (ht : ∀ p ∈ bs, (m.tables p.2).isSome) {n : Nat}
    (hn : bs.length ≤ n) :
    MethodsEqOn m (File.fileMethods N (methodsAt N leaves n) ⟨f⟩)
      ((Transport.layer N)^[bs.length] (leafTransport leaves id)).methods := by
  induction hc generalizing n with
  | @leaf b t id hb hbox =>
    obtain ⟨a, ha⟩ := Option.isSome_iff_exists.mp (ht (b, t) (List.mem_singleton_self _))
    cases n with
    | zero => exact absurd hn (by simp)
    | succ n => exact fileMethods_eqOn_layer N hb hbox ha (MethodsEqOn.refl m (leaves id)) _
  | @wrap b t g bs id hb hbox _ _ ih =>
    obtain ⟨a, ha⟩ := Option.isSome_iff_exists.mp (ht (b, t) (List.mem_cons_self _ _))
    cases n with
    | zero => exact absurd hn (by simp)
    | succ n =>
      rw [List.length_cons, Function.iterate_succ_apply']
      exact fileMethods_eqOn_layer N hb hbox ha
        (ih (fun p hp => ht p (List.mem_cons_of_mem _ hp)) (Nat.le_of_succ_le_succ hn)) _

theorem Chain.byte_methods_transparent (leaves : Nat → FileMethods Mem) {f : RawFile}
    {bs : List (Nat × Nat)} {id : Nat} (hc : Chain N m.boxes f bs id)
    (ht : ∀ p ∈ bs, (m.tables p.2).isSome) {n : Nat} (hn : bs.length ≤ n) (buf : Slice)
    (hbuf : buf.len ≤ i32MaxAsUsize) (peek : Bool) (timeout : Option Duration) :
    EqOn m ((File.fileMethods N (methodsAt N leaves n) ⟨f⟩).read buf)
      ((leaves id).read buf >>= countGuard buf.len) ∧
    EqOn m ((File.fileMethods N (methodsAt N leaves n) ⟨f⟩).write buf)
      ((leaves id).write buf >>= countGuard buf.len) ∧
    EqOn m ((File.fileMethods N (methodsAt N leaves n) ⟨f⟩).recv buf peek timeout)
      ((leaves id).recv buf peek (N.timeoutRoundTrip^[bs.length] timeout) >>= countGuard buf.len) ∧
    EqOn m ((File.fileMethods N (methodsAt N leaves n) ⟨f⟩).send buf timeout)
      ((leaves id).send buf (N.timeoutRoundTrip^[bs.length] timeout) >>= countGuard buf.len) := by
  obtain ⟨t, rest, rfl⟩ := hc.head
  have h := hc.methodsEqOn_layer N leaves ht hn
  have hfwd := fun {P : Type} (op : Transport Mem → P → Act Mem (Result Usize)) (g : P → P) hop p =>
    (forwardBytes_iterate N buf op g hop rest.length (leafTransport leaves id) p).trans
      (forwardBytes_of_le hbuf _)
  exact ⟨(h.read buf).trans_eq (hfwd (fun t (_ : Unit) => t.methods.read buf) (fun u => u)
      (fun _ _ => rfl) ()),
    (h.write buf).trans_eq (hfwd (fun t (_ : Unit) => t.methods.write buf) (fun u => u)
      (fun _ _ => rfl) ()),
    (h.recv buf peek timeout).trans_eq
      (hfwd (fun t => t.methods.recv buf peek) N.timeoutRoundTrip (fun _ _ => rfl) timeout),
    (h.send buf timeout).trans_eq
      (hfwd (fun t => t.methods.send buf) N.timeoutRoundTrip (fun _ _ => rfl) timeout)⟩

theorem Chain.byte_methods_transparent_two_boxes :
    let N : Nspr := ⟨0, fun _ => 0, fun _ => none, fun _ => none, fun _ => ⟨0, []⟩, ⟨0, []⟩,
      fun _ => 0, fun _ => false, ⟨0, 0⟩, ⟨0, 0⟩⟩
    let leaves : Nat → FileMethods Mem := fun _ =>
      { read := fun _ => pure (.ok 4), write := fun _ => pure (.error ⟨1, 2⟩),
        recv := fun _ _ _ => pure (.ok 4), send := fun _ _ => pure (.ok 11) }
    let m : Mem :=
      ⟨fun p => if p = 1 then some ⟨⟨3, 1, 0⟩, 3, .file ⟨2⟩⟩
        else if p = 2 then some ⟨⟨3, 2, 0⟩, 3, .leaf 7⟩ else none,
       fun t => if t = 3 then some ⟨2, .PR_DESC_PIPE⟩ else none, 4, []⟩
    let bs : List (Nat × Nat) := [(1, 3), (2, 3)]
    let buf : Slice := ⟨0, 10⟩
    let M := File.fileMethods N (methodsAt N leaves 2) ⟨1⟩
    (Chain N m.boxes 1 bs 7 ∧ (∀ p ∈ bs, (m.tables p.2).isSome) ∧ bs.length ≤ 2 ∧
      buf.len ≤ i32MaxAsUsize) ∧
    (EqOn m (M.read buf) ((leaves 7).read buf >>= countGuard buf.len) ∧
    EqOn m (M.write buf) ((leaves 7).write buf >>= countGuard buf.len) ∧
    EqOn m (M.recv buf true none)
      ((leaves 7).recv buf true (N.timeoutRoundTrip^[bs.length] none) >>= countGuard buf.len) ∧
    EqOn m (M.send buf none)
      ((leaves 7).send buf (N.timeoutRoundTrip^[bs.length] none) >>= countGuard buf.len)) ∧
    (M.read buf).run ⟨⟨0, 0⟩, m⟩ = .ok (.ok 4, ⟨⟨0, 0⟩, m⟩) ∧
    (M.write buf).run ⟨⟨0, 0⟩, m⟩ = .ok (.error ⟨1, 2⟩, ⟨⟨1, 2⟩, m⟩) ∧
    (M.send buf none).run ⟨⟨0, 0⟩, m⟩ = .error "assertion failed: len <= amount as usize" :=
  have hc := Chain.wrap (by decide) rfl (by decide) (Chain.leaf (by decide) rfl)
  ⟨⟨hc, by decide, by decide, by decide⟩,
    Chain.byte_methods_transparent _ _ hc (by decide) (by decide) _ (by decide) true none, rfl, rfl, rfl⟩

end Heap

end NssLayering
