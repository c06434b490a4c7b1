import NssLayering.Machine

namespace NssLayering

structure Error where
  nsprError : PRErrorCode
  osError : PRInt32
  deriving DecidableEq, Repr

abbrev Result (α : Type) := Except Error α

structure World (σ : Type) where
  error : Error
  ext : σ

abbrev Act (σ : Type) := StateT (World σ) (Except String)

variable {σ α β S T : Type}

def Act.assert (c : Prop) [Decidable c] (expr : String) : Act σ Unit :=
  if c then pure () else throw ("assertion failed: " ++ expr)

def unimplemented : Act σ α := throw "not implemented"

/-- Modelled from the spec: `Error::set` of `nspr::error`, which stores the error in NSPR's
per-thread error state. -/
def Error.set (e : Error) : Act σ Unit := modify fun w => { w with error := e }

/-- Modelled from the spec: `failed` of `nspr::error`, which returns the error held in NSPR's
per-thread error state. -/
def failed : Act σ (Result α) := do return .error (← get).error

/-- Modelled from the spec: `GenStatus`, the status of a foreign call before it becomes a
`Result`. -/
inductive GenStatus (α : Type) where
  | Success (a : α)
  | ErrorFromC

/-- Modelled from the spec: how `wrap_ffi` reads the value a foreign call returns. -/
class IntoGenStatus (S : Type) (T : outParam Type) where
  into : S → GenStatus T

instance : IntoGenStatus PRInt32 Usize where
  into rv := if rv.slt 0 then .ErrorFromC else .Success (i32AsUsize rv)

instance : IntoGenStatus PRStatus Unit where
  into
    | .PR_SUCCESS => .Success ()
    | .PR_FAILURE => .ErrorFromC

/-- Modelled from the spec: `wrap_ffi`, which turns a foreign call's failure sentinel into the
error of the per-thread state. -/
def wrapFfi [IntoGenStatus S T] (f : Act σ S) : Act σ (Result T) := do
  match IntoGenStatus.into (← f) with
  | .Success t => pure (.ok t)
  | .ErrorFromC => failed

/-- Modelled from the spec: `wrap_callback`, which reports a callback's error through the
per-thread state and the failure sentinel `fail`. -/
def wrapCallback (fail : S) (f : Act σ (Result S)) : Act σ S := do
  match ← f with
  | .ok s => pure s
  | .error e => do e.set; pure fail

def Result.mapAct (f : α → Act σ β) : Result α → Act σ (Result β)
  | .ok a => do return .ok (← f a)
  | .error e => pure (.error e)

def publish : Result α → Act σ (Result α)
  | .ok a => pure (.ok a)
  | .error e => do e.set; pure (.error e)

def acrossFfi [IntoGenStatus S T] : Result S → Act σ (Result T)
  | .ok s => wrapFfi (pure s)
  | .error e => publish (.error e)

theorem into_int32 (rv : PRInt32) :
    IntoGenStatus.into rv = if rv.slt 0 then .ErrorFromC else .Success (i32AsUsize rv) := rfl

theorem into_usizeAsI32 {x : Usize} (h : x ≤ i32MaxAsUsize) :
    IntoGenStatus.into (usizeAsI32 x) = .Success x := by
  rw [into_int32, slt_usizeAsI32_zero h, i32AsUsize_usizeAsI32 h]
  rfl

theorem into_neg_one : IntoGenStatus.into (-1 : PRInt32) = (.ErrorFromC : GenStatus Usize) := by
  rw [into_int32, if_pos (by decide)]

theorem into_success : IntoGenStatus.into PRStatus.PR_SUCCESS = GenStatus.Success () := rfl

theorem into_failure : IntoGenStatus.into PRStatus.PR_FAILURE = (.ErrorFromC : GenStatus Unit) :=
  rfl

theorem run_bind_of_run {x : Act σ α} {f : α → Act σ β} {s s' : World σ} {a : α}
    (h : x.run s = .ok (a, s')) : (x >>= f).run s = (f a).run s' := by
  rw [StateT.run_bind, h]
  rfl

theorem Act.assert_of_pos {c : Prop} [Decidable c] (h : c) (expr : String) :
    (Act.assert c expr : Act σ Unit) = pure () := if_pos h

theorem Act.assert_of_neg {c : Prop} [Decidable c] (h : ¬c) (expr : String) :
    (Act.assert c expr : Act σ Unit) = throw ("assertion failed: " ++ expr) := if_neg h

theorem publish_publish (r : Result α) : (publish r >>= publish : Act σ (Result α)) = publish r := by
  cases r <;> rfl

theorem wrapFfi_pure_success [IntoGenStatus S T] {s : S} {t : T}
    (h : IntoGenStatus.into s = .Success t) : (wrapFfi (pure s) : Act σ (Result T)) = pure (.ok t) := by
  simp only [wrapFfi, pure_bind, h]

theorem wrapFfi_wrapCallback [IntoGenStatus S T] {fail : S}
    (hfail : IntoGenStatus.into fail = (.ErrorFromC : GenStatus T)) (x : Act σ (Result S)) :
    wrapFfi (wrapCallback fail x) = x >>= acrossFfi := by
  simp only [wrapFfi, wrapCallback, bind_assoc]
  congr 1
  funext r
  cases r with
  | ok s => simp only [pure_bind, acrossFfi, wrapFfi]
  | error e => simp only [bind_assoc, pure_bind, hfail, publish, acrossFfi]; rfl

end NssLayering
