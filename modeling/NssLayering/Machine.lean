namespace NssLayering

abbrev Usize := BitVec 64

abbrev PRInt32 := BitVec 32

abbrev PRIntn := BitVec 32

abbrev PRIntervalTime := BitVec 32

abbrev PRErrorCode := BitVec 32

abbrev PRDescIdentity := PRIntn

abbrev PRBool := PRIntn

inductive PRStatus where
  | PR_FAILURE
  | PR_SUCCESS
  deriving DecidableEq, Repr

inductive PRDescType where
  | PR_DESC_FILE
  | PR_DESC_SOCKET_TCP
  | PR_DESC_SOCKET_UDP
  | PR_DESC_LAYERED
  | PR_DESC_PIPE
  deriving DecidableEq, Repr

def PR_MSG_PEEK : PRIntn := 0x2

def usizeAsI32 (x : Usize) : PRInt32 := x.setWidth 32

def i32AsUsize (x : PRInt32) : Usize := x.signExtend 64

def i32MaxAsUsize : Usize := 0x7fffffff

theorem toNat_usizeAsI32 {x : Usize} (h : x ≤ i32MaxAsUsize) :
    (usizeAsI32 x).toNat = x.toNat := by
  simp only [usizeAsI32, BitVec.toNat_setWidth]
  simp only [i32MaxAsUsize] at h
  bv_omega

theorem msb_usizeAsI32 {x : Usize} (h : x ≤ i32MaxAsUsize) : (usizeAsI32 x).msb = false := by
  rw [BitVec.msb_eq_false_iff_two_mul_lt, toNat_usizeAsI32 h]
  simp only [i32MaxAsUsize] at h
  bv_omega

theorem i32AsUsize_usizeAsI32 {x : Usize} (h : x ≤ i32MaxAsUsize) :
    i32AsUsize (usizeAsI32 x) = x := by
  rw [i32AsUsize, BitVec.signExtend_eq_not_setWidth_not_of_msb_false (msb_usizeAsI32 h)]
  apply BitVec.eq_of_toNat_eq
  rw [BitVec.toNat_setWidth, toNat_usizeAsI32 h]
  exact Nat.mod_eq_of_lt (by simp only [i32MaxAsUsize] at h; bv_omega)

theorem toInt_usizeAsI32 {x : Usize} (h : x ≤ i32MaxAsUsize) :
    (usizeAsI32 x).toInt = x.toNat := by
  rw [BitVec.toInt_eq_msb_cond, msb_usizeAsI32 h, toNat_usizeAsI32 h]
  rfl

theorem toInt_zero_i32 : (0 : PRInt32).toInt = 0 := rfl

theorem sle_zero_usizeAsI32 {x : Usize} (h : x ≤ i32MaxAsUsize) :
    BitVec.sle 0 (usizeAsI32 x) = true := by
  simp only [BitVec.sle, toInt_usizeAsI32 h, toInt_zero_i32, decide_eq_true_eq]
  omega

theorem slt_usizeAsI32_zero {x : Usize} (h : x ≤ i32MaxAsUsize) :
    BitVec.slt (usizeAsI32 x) 0 = false := by
  simp only [BitVec.slt, toInt_usizeAsI32 h, toInt_zero_i32, decide_eq_false_iff_not]
  omega

theorem peek_flags_roundtrip (peek : Bool) :
    ((if peek then PR_MSG_PEEK else 0) &&& PR_MSG_PEEK != 0) = peek := by
  cases peek <;> decide

end NssLayering
