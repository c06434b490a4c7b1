import NssLayering.Fd

namespace NssLayering

variable {σ : Type} (N : Nspr)

def Nspr.timeoutRoundTrip (timeout : Option Duration) : Option Duration :=
  N.durationOptFromNspr (N.durationOptToNspr timeout)

def Nspr.addrRoundTrip (addr : SocketAddr) : Option SocketAddr :=
  N.readNetAddr (N.writeNetAddr addr)

def Nspr.boolRoundTrip (b : Bool) : Bool := N.boolFromNspr (N.boolToNspr b)

def countGuard (cap : Usize) : Result Usize → Act σ (Result Usize)
  | .ok len => do
    Act.assert (len ≤ cap) "len <= amount as usize"
    pure (.ok len)
  | .error e => publish (.error e)

def forwardBytes (buf : Slice) (call : Act σ (Result Usize)) : Act σ (Result Usize) := do
  Act.assert (buf.len ≤ i32MaxAsUsize) "buf.len() <= i32::MAX as usize"
  call >>= countGuard buf.len

def connectTo (connect : SocketAddr → Option Duration → Act σ (Result Unit))
    (timeout : Option Duration) : Option SocketAddr → Act σ (Result Unit)
  | some a => connect a timeout >>= publish
  | none => publish (.error N.addressNotSupported)

def readBackAddr : Result SocketAddr → Act σ (Result SocketAddr)
  | .ok a =>
    match N.addrRoundTrip a with
    | some a' => pure (.ok a')
    | none => pure (.error N.addressNotSupported)
  | .error e => publish (.error e)

def Transport.layer (t : Transport σ) : Transport σ where
  methods :=
    { read := fun buf => forwardBytes buf (t.methods.read buf)
      write := fun buf => forwardBytes buf (t.methods.write buf)
      connect := fun addr timeout =>
        connectTo N t.methods.connect (N.timeoutRoundTrip timeout) (N.addrRoundTrip addr)
      recv := fun buf peek timeout =>
        forwardBytes buf (t.methods.recv buf peek (N.timeoutRoundTrip timeout))
      send := fun buf timeout => forwardBytes buf (t.methods.send buf (N.timeoutRoundTrip timeout))
      getsockname := t.methods.getsockname >>= readBackAddr N
      getpeername := t.methods.getpeername >>= readBackAddr N
      getNonblocking := do
        let r ← t.methods.getNonblocking
        publish (r.map N.boolRoundTrip) }
  drop := t.drop

theorem run_bind_countGuard (cap : Usize) (call : Act σ (Result Usize)) (s : World σ) :
    (call >>= countGuard cap).run s =
      match call.run s with
      | .error p => .error p
      | .ok (.ok len, s') =>
        if len ≤ cap then .ok (.ok len, s') else .error "assertion failed: len <= amount as usize"
      | .ok (.error e, s') => .ok (.error e, { s' with error := e }) := by
  rw [StateT.run_bind]
  rcases call.run s with p | ⟨_ | len, s'⟩
  · rfl
  · rfl
  · show (countGuard cap (.ok len)).run s' = _
    by_cases h : len ≤ cap
    · simp only [countGuard, Act.assert_of_pos h, if_pos h, pure_bind]
      rfl
    · simp only [countGuard, Act.assert_of_neg h, if_neg h]
      rfl

theorem forwardBytes_of_le {buf : Slice} (hb : buf.len ≤ i32MaxAsUsize) (call : Act σ (Result Usize)) :
    forwardBytes buf call = call >>= countGuard buf.len := by
  simp only [forwardBytes, Act.assert_of_pos hb, pure_bind]

theorem forwardBytes_of_gt {buf : Slice} (hb : ¬buf.len ≤ i32MaxAsUsize) (call : Act σ (Result Usize)) :
    forwardBytes buf call = throw "assertion failed: buf.len() <= i32::MAX as usize" := by
  simp only [forwardBytes, Act.assert_of_neg hb]
  rfl

def ReportsWithin (cap : Usize) (call : Act σ (Result Usize)) : Prop :=
  ∀ s, match call.run s with
    | .ok (.ok len, _) => len ≤ cap
    | .ok (.error e, s') => s'.error = e
    | .error _ => True

theorem reportsWithin_bind_countGuard (cap : Usize) (call : Act σ (Result Usize)) :
    ReportsWithin cap (call >>= countGuard cap) := by
  intro s
  rw [run_bind_countGuard]
  rcases call.run s with p | ⟨_ | len, s'⟩
  · trivial
  · rfl
  · dsimp only
    by_cases h : len ≤ cap
    · rw [if_pos h]
      exact h
    · rw [if_neg h]
      trivial

theorem reportsWithin_forwardBytes (buf : Slice) (call : Act σ (Result Usize)) :
    ReportsWithin buf.len (forwardBytes buf call) := by
  by_cases hb : buf.len ≤ i32MaxAsUsize
  · rw [forwardBytes_of_le hb]
    exact reportsWithin_bind_countGuard _ _
  · rw [forwardBytes_of_gt hb]
    exact fun _ => trivial

theorem bind_countGuard_of_reportsWithin {cap : Usize} {call : Act σ (Result Usize)}
    (h : ReportsWithin cap call) : call >>= countGuard cap = call := by
  funext s
  have hs := h s
  show (call >>= countGuard cap).run s = call.run s
  rw [run_bind_countGuard]
  generalize call.run s = o at hs ⊢
  rcases o with p | ⟨_ | len, s'⟩
  · rfl
  · have hs : s'.error = _ := hs
    rw [← hs]
  · exact if_pos (show len ≤ cap from hs)

end NssLayering
