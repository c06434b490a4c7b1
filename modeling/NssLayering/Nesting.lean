import NssLayering.Refinement
import Mathlib.Logic.Function.Iterate

namespace NssLayering

variable {σ : Type} {N : Nspr}

def FileWrapper.wrapAll : FileWrapper N σ → List (FileWrapper N σ) → Transport σ → File σ
  | w, [], t => w.wrap t
  | w, v :: vs, t => w.wrap ((wrapAll v vs t).transport N)

theorem FileWrapper.transport_wrapAll (w : FileWrapper N σ) (ws : List (FileWrapper N σ))
    (t : Transport σ) : (w.wrapAll ws t).transport N = (Transport.layer N)^[ws.length + 1] t := by
  induction ws generalizing w with
  | nil => exact w.transport_wrap t
  | cons v vs ih =>
    rw [wrapAll, w.transport_wrap, ih, List.length_cons, Function.iterate_succ_apply' _ (_ + 1)]

theorem forwardBytes_forwardBytes (buf : Slice) (call : Act σ (Result Usize)) :
    forwardBytes buf (forwardBytes buf call) = forwardBytes buf call := by
  by_cases hb : buf.len ≤ i32MaxAsUsize
  · rw [forwardBytes_of_le hb (forwardBytes buf call),
      bind_countGuard_of_reportsWithin (reportsWithin_forwardBytes buf call)]
  · rw [forwardBytes_of_gt hb, forwardBytes_of_gt hb]

theorem forwardBytes_iterate (N : Nspr) {P : Type} (buf : Slice) (op : Transport σ → P → Act σ (Result Usize))
    (g : P → P) (hop : ∀ t p, op (t.layer N) p = forwardBytes buf (op t (g p))) (k : Nat)
    (t : Transport σ) (p : P) :
    op ((Transport.layer N)^[k + 1] t) p = forwardBytes buf (op t (g^[k + 1] p)) := by
  induction k generalizing p with
  | zero => exact hop t p
  | succ k ih =>
    rw [Function.iterate_succ_apply', hop, ih, forwardBytes_forwardBytes,
      ← Function.iterate_succ_apply g]

theorem FileWrapper.read_wrapAll (w : FileWrapper N σ) (ws : List (FileWrapper N σ))
    (t : Transport σ) (buf : Slice) :
    (w.wrapAll ws t).read buf = forwardBytes buf (t.methods.read buf) := by
  have h := forwardBytes_iterate N buf (fun t (_ : Unit) => t.methods.read buf) id
    (fun _ _ => rfl) ws.length t ()
  rwa [← w.transport_wrapAll] at h

theorem FileWrapper.write_wrapAll (w : FileWrapper N σ) (ws : List (FileWrapper N σ))
    (t : Transport σ) (buf : Slice) :
    (w.wrapAll ws t).write buf = forwardBytes buf (t.methods.write buf) := by
  have h := forwardBytes_iterate N buf (fun t (_ : Unit) => t.methods.write buf) id
    (fun _ _ => rfl) ws.length t ()
  rwa [← w.transport_wrapAll] at h

theorem FileWrapper.recv_wrapAll (w : FileWrapper N σ) (ws : List (FileWrapper N σ))
    (t : Transport σ) (buf : Slice) (peek : Bool) (timeout : Option Duration) :
    (w.wrapAll ws t).recv N buf peek timeout =
      forwardBytes buf (t.methods.recv buf peek (N.timeoutRoundTrip^[ws.length + 1] timeout)) := by
  have h := forwardBytes_iterate N buf (fun t => t.methods.recv buf peek) N.timeoutRoundTrip
    (fun _ _ => rfl) ws.length t timeout
  rwa [← w.transport_wrapAll] at h

theorem FileWrapper.send_wrapAll (w : FileWrapper N σ) (ws : List (FileWrapper N σ))
    (t : Transport σ) (buf : Slice) (timeout : Option Duration) :
    (w.wrapAll ws t).send N buf timeout =
      forwardBytes buf (t.methods.send buf (N.timeoutRoundTrip^[ws.length + 1] timeout)) := by
  have h := forwardBytes_iterate N buf (fun t => t.methods.send buf) N.timeoutRoundTrip
    (fun _ _ => rfl) ws.length t timeout
  rwa [← w.transport_wrapAll] at h

theorem FileWrapper.drop_wrapAll (w : FileWrapper N σ) (ws : List (FileWrapper N σ))
    (t : Transport σ) : (w.wrapAll ws t).drop = t.drop := by
  induction ws generalizing w with
  | nil => exact w.drop_wrap t
  | cons v vs ih => rw [wrapAll, w.drop_wrap, File.transport, ih]

theorem FileWrapper.wrapAll_byte_methods_transparent (w : FileWrapper N σ)
    (ws : List (FileWrapper N σ)) (t : Transport σ) (buf : Slice) (hbuf : buf.len ≤ i32MaxAsUsize)
    (peek : Bool) (timeout : Option Duration) :
    (w.wrapAll ws t).read buf = t.methods.read buf >>= countGuard buf.len ∧
    (w.wrapAll ws t).write buf = t.methods.write buf >>= countGuard buf.len ∧
    (w.wrapAll ws t).recv N buf peek timeout =
      t.methods.recv buf peek (N.timeoutRoundTrip^[ws.length + 1] timeout) >>=
        countGuard buf.len ∧
    (w.wrapAll ws t).send N buf timeout =
      t.methods.send buf (N.timeoutRoundTrip^[ws.length + 1] timeout) >>= countGuard buf.len := by
  simp only [w.read_wrapAll, w.write_wrapAll, w.recv_wrapAll, w.send_wrapAll,
    forwardBytes_of_le hbuf, and_self]

theorem FileWrapper.wrapAll_byte_methods_transparent_counting :
    let N : Nspr := ⟨0, fun _ => 0, fun _ => none, fun _ => none, fun _ => ⟨0, []⟩, ⟨0, []⟩,
      fun _ => 0, fun _ => false, ⟨0, 0⟩, ⟨0, 0⟩⟩
    let w : FileWrapper N Unit := .new N .PR_DESC_PIPE
    let t : Transport Unit :=
      ⟨{ read := fun _ => pure (.ok 4), write := fun _ => pure (.error ⟨1, 2⟩),
         recv := fun _ _ _ => pure (.ok 4), send := fun _ _ => pure (.ok 11) }, pure ()⟩
    let buf : Slice := ⟨0, 10⟩
    buf.len ≤ i32MaxAsUsize ∧
      ((w.wrapAll [w, w] t).read buf = t.methods.read buf >>= countGuard buf.len ∧
      (w.wrapAll [w, w] t).write buf = t.methods.write buf >>= countGuard buf.len ∧
      (w.wrapAll [w, w] t).recv N buf true none =
        t.methods.recv buf true (N.timeoutRoundTrip^[[w, w].length + 1] none) >>=
          countGuard buf.len ∧
      (w.wrapAll [w, w] t).send N buf none =
        t.methods.send buf (N.timeoutRoundTrip^[[w, w].length + 1] none) >>= countGuard buf.len) ∧
      ((w.wrapAll [w, w] t).read buf).run ⟨⟨0, 0⟩, ()⟩ = .ok (.ok 4, ⟨⟨0, 0⟩, ()⟩) ∧
      ((w.wrapAll [w, w] t).write buf).run ⟨⟨0, 0⟩, ()⟩ = .ok (.error ⟨1, 2⟩, ⟨⟨1, 2⟩, ()⟩) ∧
      ((w.wrapAll [w, w] t).send N buf none).run ⟨⟨0, 0⟩, ()⟩ =
        .error "assertion failed: len <= amount as usize" :=
  ⟨by decide, FileWrapper.wrapAll_byte_methods_transparent _ _ _ _ (by decide) true none, rfl, rfl, rfl⟩

theorem publish_bind_publish_map {α β : Type} (f : α → β) (r : Result α) :
    (publish r >>= fun r => publish (r.map f) : Act σ (Result β)) = publish (r.map f) := by
  cases r <;> rfl

theorem getNonblocking_iterate_layer (N : Nspr) (k : Nat) (t : Transport σ) :
    ((Transport.layer N)^[k + 1] t).methods.getNonblocking =
      t.methods.getNonblocking >>= fun r => publish (r.map N.boolRoundTrip^[k + 1]) := by
  induction k with
  | zero => rfl
  | succ k ih =>
    rw [Function.iterate_succ_apply']
    dsimp only [Transport.layer]
    rw [ih, bind_assoc]
    congr 1
    funext r
    rw [publish_bind_publish_map]
    cases r <;> simp only [Except.map, Function.iterate_succ_apply']

theorem FileWrapper.getNonblocking_wrapAll (w : FileWrapper N σ) (ws : List (FileWrapper N σ))
    (t : Transport σ) :
    (w.wrapAll ws t).getNonblocking N =
      t.methods.getNonblocking >>= fun r => publish (r.map N.boolRoundTrip^[ws.length + 1]) := by
  have h := getNonblocking_iterate_layer N ws.length t
  rwa [← w.transport_wrapAll] at h

def Nspr.addrAfter (N : Nspr) (k : Nat) (addr : SocketAddr) : Option SocketAddr :=
  (fun o => o.bind N.addrRoundTrip)^[k] (some addr)

theorem Nspr.addrAfter_succ (N : Nspr) (k : Nat) (addr : SocketAddr) :
    N.addrAfter (k + 1) addr = (N.addrRoundTrip addr).bind (N.addrAfter k) := by
  simp only [Nspr.addrAfter, Function.iterate_succ_apply, Option.some_bind]
  cases N.addrRoundTrip addr with
  | none => exact Function.iterate_fixed rfl k
  | some a => rfl

theorem Nspr.addrAfter_succ' (N : Nspr) (k : Nat) (addr : SocketAddr) :
    N.addrAfter (k + 1) addr = (N.addrAfter k addr).bind N.addrRoundTrip :=
  Function.iterate_succ_apply' _ k _

theorem connectTo_bind_publish (c : SocketAddr → Option Duration → Act σ (Result Unit))
    (timeout : Option Duration) (o : Option SocketAddr) :
    (connectTo N c timeout o >>= publish) = connectTo N c timeout o := by
  cases o with
  | none => exact publish_publish (.error N.addressNotSupported)
  | some a => simp only [connectTo, bind_assoc, publish_publish]

theorem connect_iterate_layer (N : Nspr) (k : Nat) (t : Transport σ) (addr : SocketAddr)
    (timeout : Option Duration) :
    ((Transport.layer N)^[k + 1] t).methods.connect addr timeout =
      connectTo N t.methods.connect (N.timeoutRoundTrip^[k + 1] timeout)
        (N.addrAfter (k + 1) addr) := by
  induction k generalizing addr timeout with
  | zero => rfl
  | succ k ih =>
    rw [Function.iterate_succ_apply', N.addrAfter_succ (k + 1)]
    dsimp only [Transport.layer]
    cases N.addrRoundTrip addr with
    | none => rfl
    | some a =>
      rw [connectTo.eq_1, ih, connectTo_bind_publish, Option.some_bind,
        Function.iterate_succ_apply N.timeoutRoundTrip (k + 1) timeout]

theorem FileWrapper.connect_wrapAll (w : FileWrapper N σ) (ws : List (FileWrapper N σ))
    (t : Transport σ) (addr : SocketAddr) (timeout : Option Duration) :
    (w.wrapAll ws t).connect N addr timeout =
      connectTo N t.methods.connect (N.timeoutRoundTrip^[ws.length + 1] timeout)
        (N.addrAfter (ws.length + 1) addr) := by
  have h := connect_iterate_layer N ws.length t addr timeout
  rwa [← w.transport_wrapAll] at h

def sockAddrAfter (N : Nspr) (k : Nat) : Result SocketAddr → Act σ (Result SocketAddr)
  | .ok a =>
    match N.addrAfter (k + 1) a with
    | some a' => pure (.ok a')
    | none =>
      if (N.addrAfter k a).isSome then pure (.error N.addressNotSupported)
      else publish (.error N.addressNotSupported)
  | .error e => publish (.error e)

theorem sockAddrAfter_bind_readBackAddr (k : Nat) (r : Result SocketAddr) :
    (sockAddrAfter N k r >>= readBackAddr N : Act σ (Result SocketAddr)) =
      sockAddrAfter N (k + 1) r := by
  cases r with
  | error e => rfl
  | ok a =>
    simp only [sockAddrAfter, N.addrAfter_succ' (k + 1)]
    cases N.addrAfter (k + 1) a with
    | some a' =>
      simp only [pure_bind, Option.some_bind, Option.isSome_some, if_true]
      rfl
    | none =>
      simp only [Option.none_bind, Option.isSome_none, Bool.false_eq_true, ↓reduceIte]
      split <;> rfl

theorem sockAddr_iterate_layer (N : Nspr) (op : FileMethods σ → Act σ (Result SocketAddr))
    (hop : ∀ t : Transport σ, op (t.layer N).methods = op t.methods >>= readBackAddr N)
    (k : Nat) (t : Transport σ) :
    op ((Transport.layer N)^[k + 1] t).methods = op t.methods >>= sockAddrAfter N k := by
  induction k with
  | zero =>
    rw [Function.iterate_one, hop]
    rfl
  | succ k ih =>
    rw [Function.iterate_succ_apply', hop, ih, bind_assoc]
    simp only [sockAddrAfter_bind_readBackAddr]

theorem FileWrapper.getsockname_wrapAll (w : FileWrapper N σ) (ws : List (FileWrapper N σ))
    (t : Transport σ) :
    (w.wrapAll ws t).getsockname N = t.methods.getsockname >>= sockAddrAfter N ws.length := by
  have h := sockAddr_iterate_layer N FileMethods.getsockname (fun _ => rfl) ws.length t
  rwa [← w.transport_wrapAll] at h

theorem FileWrapper.getpeername_wrapAll (w : FileWrapper N σ) (ws : List (FileWrapper N σ))
    (t : Transport σ) :
    (w.wrapAll ws t).getpeername N = t.methods.getpeername >>= sockAddrAfter N ws.length := by
  have h := sockAddr_iterate_layer N FileMethods.getpeername (fun _ => rfl) ws.length t
  rwa [← w.transport_wrapAll] at h

def Transport.ReportsWithinBuffer (t : Transport σ) (buf : Slice) : Prop :=
  ReportsWithin buf.len (t.methods.read buf) ∧ ReportsWithin buf.len (t.methods.write buf) ∧
    (∀ peek timeout, ReportsWithin buf.len (t.methods.recv buf peek timeout)) ∧
    ∀ timeout, ReportsWithin buf.len (t.methods.send buf timeout)

theorem FileWrapper.wrapAll_reportsWithin (w : FileWrapper N σ) (ws : List (FileWrapper N σ))
    (t : Transport σ) (buf : Slice) : ((w.wrapAll ws t).transport N).ReportsWithinBuffer buf := by
  have hfwd : ∀ {op : Act σ (Result Usize)} (call : Act σ (Result Usize)),
      op = forwardBytes buf call → ReportsWithin buf.len op :=
    fun call h => h ▸ reportsWithin_forwardBytes buf call
  exact ⟨hfwd _ (w.read_wrapAll ws t buf), hfwd _ (w.write_wrapAll ws t buf),
    fun peek timeout => hfwd _ (w.recv_wrapAll ws t buf peek timeout),
    fun timeout => hfwd _ (w.send_wrapAll ws t buf timeout)⟩

theorem FileWrapper.wrapAll_byte_methods_of_reportsWithin (w : FileWrapper N σ)
    (ws : List (FileWrapper N σ)) (t : Transport σ) (buf : Slice) (hbuf : buf.len ≤ i32MaxAsUsize)
    (ht : t.ReportsWithinBuffer buf) (peek : Bool) (timeout : Option Duration) :
    (w.wrapAll ws t).read buf = t.methods.read buf ∧
    (w.wrapAll ws t).write buf = t.methods.write buf ∧
    (w.wrapAll ws t).recv N buf peek timeout =
      t.methods.recv buf peek (N.timeoutRoundTrip^[ws.length + 1] timeout) ∧
    (w.wrapAll ws t).send N buf timeout =
      t.methods.send buf (N.timeoutRoundTrip^[ws.length + 1] timeout) := by
  obtain ⟨hread, hwrite, hrecv, hsend⟩ := ht
  simp only [w.read_wrapAll, w.write_wrapAll, w.recv_wrapAll, w.send_wrapAll,
    forwardBytes_of_le hbuf, bind_countGuard_of_reportsWithin hread,
    bind_countGuard_of_reportsWithin hwrite, bind_countGuard_of_reportsWithin (hrecv _ _),
    bind_countGuard_of_reportsWithin (hsend _), and_self]

theorem FileWrapper.wrapAll_byte_methods_of_reportsWithin_zero :
    let N : Nspr := ⟨0, fun _ => 0, fun _ => none, fun _ => none, fun _ => ⟨0, []⟩, ⟨0, []⟩,
      fun _ => 0, fun _ => false, ⟨0, 0⟩, ⟨0, 0⟩⟩
    let w : FileWrapper N Unit := .new N .PR_DESC_PIPE
    let t : Transport Unit :=
      ⟨{ read := fun _ => pure (.ok 0), write := fun _ => pure (.ok 0),
         recv := fun _ _ _ => pure (.ok 0), send := fun _ _ => pure (.ok 0) }, pure ()⟩
    let buf : Slice := ⟨0, 10⟩
    (buf.len ≤ i32MaxAsUsize ∧ t.ReportsWithinBuffer buf) ∧
      ((w.wrapAll [w] t).read buf = t.methods.read buf ∧
      (w.wrapAll [w] t).write buf = t.methods.write buf ∧
      (w.wrapAll [w] t).recv N buf false none =
        t.methods.recv buf false (N.timeoutRoundTrip^[[w].length + 1] none) ∧
      (w.wrapAll [w] t).send N buf none =
        t.methods.send buf (N.timeoutRoundTrip^[[w].length + 1] none)) :=
  have hzero : (0 : Usize) ≤ 10 := by decide
  have ht : ReportsWithin 10 (pure (.ok 0) : Act Unit (Result Usize)) := fun _ => hzero
  have hb := And.intro ht (And.intro ht (And.intro (fun _ _ => ht) (fun _ => ht)))
  ⟨⟨by decide, by exact hb⟩,
    FileWrapper.wrapAll_byte_methods_of_reportsWithin _ _ _ _ (by decide) (by exact hb) false none⟩

end NssLayering
