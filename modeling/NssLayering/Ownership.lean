import NssLayering.Heap

namespace NssLayering

namespace Heap

namespace Mem

variable (m : Mem)

@[simp] theorem setBox_boxes (p : Nat) (v : Option WrappedFileImpl) :
    (m.setBox p v).boxes = Function.update m.boxes p v := rfl

@[simp] theorem setTable_boxes (t : Nat) (v : Option ArcInner) : (m.setTable t v).boxes = m.boxes :=
  rfl

@[simp] theorem arcRelease_boxes (t : Nat) : (m.arcRelease t).boxes = m.boxes := by
  unfold arcRelease
  split
  · split <;> rfl
  · rfl

@[simp] theorem arcRetain_boxes (t : Nat) : (m.arcRetain t).boxes = m.boxes := by
  unfold arcRetain
  split <;> rfl

@[simp] theorem alloc_boxes (v : WrappedFileImpl) :
    (m.alloc v).boxes = Function.update m.boxes m.next (some v) := rfl

@[simp] theorem arcRetain_next (t : Nat) : (m.arcRetain t).next = m.next := by
  unfold arcRetain
  split <;> rfl

@[simp] theorem arcRelease_next (t : Nat) : (m.arcRelease t).next = m.next := by
  unfold arcRelease
  split
  · split <;> rfl
  · rfl

@[simp] theorem arcRelease_dropped (t : Nat) : (m.arcRelease t).dropped = m.dropped := by
  unfold arcRelease
  split
  · split <;> rfl
  · rfl

theorem alloc_setBox_next (v v' : WrappedFileImpl) :
    (m.alloc v).setBox m.next (some v') = m.alloc v' := by
  simp only [alloc, setBox, Function.update_idem]

@[simp] theorem logDrop_boxes (id : Nat) : (m.logDrop id).boxes = m.boxes := rfl

theorem strongOf_setTable (t t' : Nat) (v : Option ArcInner) :
    (m.setTable t v).strongOf t' = if t' = t then (v.map ArcInner.strong).getD 0 else m.strongOf t' := by
  by_cases h : t' = t
  · subst h
    simp only [strongOf, setTable, Function.update_same, if_true]
  · simp only [strongOf, setTable, Function.update_noteq h, if_neg h]

theorem arcRelease_of_none {t : Nat} (ha : m.tables t = none) : m.arcRelease t = m := by
  rw [arcRelease, ha]

theorem arcRelease_of_some {t : Nat} {a : ArcInner} (ha : m.tables t = some a) :
    m.arcRelease t =
      if a.strong = 1 then m.setTable t none else m.setTable t (some { a with strong := a.strong - 1 }) := by
  rw [arcRelease, ha]

theorem arcRetain_of_some {t : Nat} {a : ArcInner} (ha : m.tables t = some a) :
    m.arcRetain t = m.setTable t (some { a with strong := a.strong + 1 }) := by
  rw [arcRetain, ha]

theorem strongOf_arcRelease (t t' : Nat) :
    (m.arcRelease t).strongOf t' = if t' = t then m.strongOf t - 1 else m.strongOf t' := by
  cases ha : m.tables t with
  | none =>
    rw [arcRelease_of_none m ha]
    by_cases h : t' = t
    · simp [strongOf, h, ha]
    · rw [if_neg h]
  | some a =>
    have hs : m.strongOf t = a.strong := by simp only [strongOf, ha, Option.map_some', Option.getD_some]
    rw [arcRelease_of_some m ha, hs]
    by_cases h1 : a.strong = 1 <;> by_cases h : t' = t <;>
      simp only [h1, h, if_true, if_false, strongOf_setTable, Option.map_none', Option.getD_none,
        Option.map_some', Option.getD_some, Nat.sub_self]

theorem strongOf_arcRetain (t t' : Nat) (ht : (m.tables t).isSome) :
    (m.arcRetain t).strongOf t' = if t' = t then m.strongOf t + 1 else m.strongOf t' := by
  unfold arcRetain
  obtain ⟨a, ha⟩ := Option.isSome_iff_exists.mp ht
  have hs : m.strongOf t = a.strong := by simp only [strongOf, ha, Option.map_some', Option.getD_some]
  simp only [ha, strongOf_setTable, hs, Option.map_some', Option.getD_some]

@[simp] theorem strongOf_setBox (p : Nat) (v : Option WrappedFileImpl) (t : Nat) :
    (m.setBox p v).strongOf t = m.strongOf t := rfl

@[simp] theorem strongOf_logDrop (id : Nat) (t : Nat) : (m.logDrop id).strongOf t = m.strongOf t :=
  rfl

theorem tables_of_strongOf_pos (t : Nat) (h : 0 < m.strongOf t) : ∃ a, m.tables t = some a := by
  unfold strongOf at h
  cases ht : m.tables t with
  | none => simp only [ht, Option.map_none', Option.getD_none, Nat.lt_irrefl] at h
  | some a => exact ⟨a, rfl⟩

theorem counts_le_arcRelease {t : Nat} {ts : List Nat} (hs : ∀ t', (t :: ts).count t' ≤ m.strongOf t')
    (t' : Nat) : ts.count t' ≤ (m.arcRelease t).strongOf t' := by
  have h := hs t'
  rw [strongOf_arcRelease]
  rcases eq_or_ne t' t with rfl | ht
  · rw [List.count_cons_self] at h
    rw [if_pos rfl]
    omega
  · rw [List.count_cons_of_ne ht] at h
    rwa [if_neg ht]

end Mem

variable {e : Error} {m : Mem}

theorem getMem_run : getMem.run ⟨e, m⟩ = .ok (m, ⟨e, m⟩) := rfl

theorem setMem_run (m' : Mem) : (setMem m').run ⟨e, m⟩ = .ok ((), ⟨e, m'⟩) := rfl

theorem deref_run {p : Nat} {v : WrappedFileImpl} (h : m.boxes p = some v) :
    (deref p).run ⟨e, m⟩ = .ok (v, ⟨e, m⟩) := by
  rw [deref, run_bind_of_run getMem_run, h]
  rfl

theorem readTable_run {t : Nat} {a : ArcInner} (h : m.tables t = some a) :
    (readTable t).run ⟨e, m⟩ = .ok (a, ⟨e, m⟩) := by
  rw [readTable, run_bind_of_run getMem_run, h]
  rfl

theorem readDesc_run {fd : RawFile} {v : WrappedFileImpl} (h : m.boxes fd = some v) :
    (readDesc fd).run ⟨e, m⟩ = .ok (v.prfd, ⟨e, m⟩) := by
  rw [readDesc, run_bind_of_run (deref_run h)]
  rfl

theorem boxFree_run {p : Nat} {v : WrappedFileImpl} (h : m.boxes p = some v) :
    (boxFree p).run ⟨e, m⟩ = .ok ((), ⟨e, m.setBox p none⟩) := by
  rw [boxFree, run_bind_of_run (deref_run h)]
  rfl

theorem arcDrop_run {t : Nat} {a : ArcInner} (h : m.tables t = some a) :
    (arcDrop t).run ⟨e, m⟩ = .ok ((), ⟨e, m.arcRelease t⟩) := by
  rw [arcDrop, run_bind_of_run (readTable_run h)]
  rfl

theorem arcClone_run {t : Nat} {a : ArcInner} (h : m.tables t = some a) :
    (arcClone t).run ⟨e, m⟩ = .ok ((), ⟨e, m.arcRetain t⟩) := by
  rw [arcClone, run_bind_of_run (readTable_run h)]
  rfl

theorem asRawPrfd_run {f : File} (h : f.raw ≠ null) : f.asRawPrfd.run ⟨e, m⟩ = .ok (f.raw, ⟨e, m⟩) := by
  simp only [File.asRawPrfd, Act.assert_of_pos h, pure_bind]
  rfl

theorem fromRawPrfd_run {fd : RawFile} (h : fd ≠ null) :
    (File.fromRawPrfd fd).run ⟨e, m⟩ = .ok (⟨fd⟩, ⟨e, m⟩) := by
  simp only [File.fromRawPrfd, Act.assert_of_pos h, pure_bind]
  rfl

theorem unsafeGetRef_run {f : File} {v : WrappedFileImpl} (hf : f.raw ≠ null)
    (h : m.boxes f.raw = some v) : f.unsafeGetRef.run ⟨e, m⟩ = .ok (v.prfd.secret, ⟨e, m⟩) := by
  rw [File.unsafeGetRef, run_bind_of_run (asRawPrfd_run hf), run_bind_of_run (readDesc_run h)]
  rfl

theorem getMut_run {fd : RawFile} {v : WrappedFileImpl} (hfd : fd ≠ null) (h : m.boxes fd = some v) :
    (BorrowedFile.getMut ⟨fd⟩).run ⟨e, m⟩ = .ok (v.prfd.secret, ⟨e, m⟩) :=
  unsafeGetRef_run hfd h

theorem getRef_run {fd : RawFile} {v : WrappedFileImpl} (hfd : fd ≠ null) (h : m.boxes fd = some v) :
    (BorrowedFile.getRef ⟨fd⟩).run ⟨e, m⟩ = .ok (v.prfd.secret, ⟨e, m⟩) :=
  unsafeGetRef_run hfd h

variable (N : Nspr)

theorem xlateFd_run {fd : RawFile} {v : WrappedFileImpl} (hfd : fd ≠ null) (h : m.boxes fd = some v)
    (hid : v.prfd.identity = N.wrappedFileIdent) :
    (WrapperMethods.xlateFd N fd).run ⟨e, m⟩ = .ok (⟨fd⟩, ⟨e, m⟩) := by
  rw [WrapperMethods.xlateFd, BorrowedFile.fromRawPrfdChecked, run_bind_of_run (readDesc_run h)]
  simp only [Act.assert_of_pos hid, pure_bind, BorrowedFile.fromRawPrfd, Act.assert_of_pos hfd]
  rfl

theorem dispatch_run {α : Type} {fd : RawFile} {v : WrappedFileImpl} {a : ArcInner} (x : Act Mem α)
    (h : m.boxes fd = some v) (ht : m.tables v.prfd.methods = some a) :
    (dispatch fd x).run ⟨e, m⟩ = x.run ⟨e, m⟩ := by
  rw [dispatch, run_bind_of_run (readDesc_run h), run_bind_of_run (readTable_run ht)]

theorem close_run {dropInner : Inner → Act Mem Unit} {fd t : Nat} {inner : Inner} {a : ArcInner}
    {m' : Mem} (hfd : fd ≠ null)
    (hbox : m.boxes fd = some ⟨⟨t, fd, N.wrappedFileIdent⟩, t, inner⟩) (ht : m.tables t = some a)
    (hinner : (dropInner inner).run ⟨e, m.arcRelease t⟩ = .ok ((), ⟨e, m'⟩))
    (hkeep : m'.boxes fd = m.boxes fd) :
    (WrapperMethods.close N dropInner fd).run ⟨e, m⟩ = .ok (.PR_SUCCESS, ⟨e, m'.setBox fd none⟩) := by
  rw [WrapperMethods.close, wrapCallback, bind_assoc]
  simp only [run_bind_of_run (xlateFd_run N hfd hbox rfl), bind_assoc,
    run_bind_of_run (getMut_run hfd hbox), run_bind_of_run (deref_run hbox),
    Act.assert_of_pos (rfl : fd = fd), pure_bind, run_bind_of_run (arcDrop_run ht),
    run_bind_of_run hinner, run_bind_of_run (boxFree_run (hkeep.trans hbox))]
  rfl

theorem drop_run {methods : PRIOMethods} {fd : RawFile} {v : WrappedFileImpl} {a : ArcInner}
    {s : World Mem} (hfd : fd ≠ null) (hbox : m.boxes fd = some v)
    (ht : m.tables v.prfd.methods = some a) (hclose : (methods.close fd).run ⟨e, m⟩ = .ok (.PR_SUCCESS, s)) :
    (File.drop methods ⟨fd⟩).run ⟨e, m⟩ = .ok (⟨null⟩, s) := by
  simp only [File.drop, if_pos hfd, wrapFfi, PR_Close, bind_assoc]
  rw [StateT.run_bind, dispatch_run _ hbox ht, hclose]
  rfl

theorem drop_null (methods : PRIOMethods) : File.drop methods ⟨null⟩ = pure ⟨null⟩ := by
  simp only [File.drop, ne_eq, not_true_eq_false, if_false, pure_bind]

theorem boxNew_run (v : WrappedFileImpl) : (boxNew v).run ⟨e, m⟩ = .ok (m.next, ⟨e, m.alloc v⟩) := rfl

theorem arcNew_run (fileType : PRDescType) :
    (arcNew fileType).run ⟨e, m⟩ = .ok (m.next, ⟨e, m.arcAlloc ⟨1, fileType⟩⟩) := rfl

theorem writeSecret_run {fd : RawFile} {v : WrappedFileImpl} (secret : Nat) (h : m.boxes fd = some v) :
    (writeSecret fd secret).run ⟨e, m⟩ =
      .ok ((), ⟨e, m.setBox fd (some { v with prfd := { v.prfd with secret := secret } })⟩) := by
  rw [writeSecret, run_bind_of_run (deref_run h)]
  rfl

theorem new_run (fileType : PRDescType) :
    (FileWrapper.new fileType).run ⟨e, m⟩ = .ok (⟨m.next⟩, ⟨e, m.arcAlloc ⟨1, fileType⟩⟩) := by
  rw [FileWrapper.new, run_bind_of_run (arcNew_run fileType)]
  rfl

theorem wrapperDrop_run {w : FileWrapper} {a : ArcInner} (h : m.tables w.methodsRef = some a) :
    w.drop.run ⟨e, m⟩ = .ok ((), ⟨e, m.arcRelease w.methodsRef⟩) :=
  arcDrop_run h

theorem wrap_run (w : FileWrapper) (inner : Inner) {a : ArcInner} (h : m.tables w.methodsRef = some a)
    (hnext : m.next ≠ null) :
    (w.wrap N inner).run ⟨e, m⟩ = .ok (⟨m.next⟩, ⟨e, (m.arcRetain w.methodsRef).alloc
      ⟨⟨w.methodsRef, m.next, N.wrappedFileIdent⟩, w.methodsRef, inner⟩⟩) := by
  have hbox : ((m.arcRetain w.methodsRef).alloc ⟨⟨w.methodsRef, null, N.wrappedFileIdent⟩,
      w.methodsRef, inner⟩).boxes m.next = some ⟨⟨w.methodsRef, null, N.wrappedFileIdent⟩, w.methodsRef, inner⟩ := by
    rw [Mem.alloc_boxes, Mem.arcRetain_next, Function.update_same]
  rw [FileWrapper.wrap, run_bind_of_run (arcClone_run h), run_bind_of_run (boxNew_run _),
    Mem.arcRetain_next, run_bind_of_run (writeSecret_run m.next hbox), fromRawPrfd_run hnext]
  rw [← Mem.arcRetain_next m w.methodsRef, Mem.alloc_setBox_next]

inductive Chain (boxes : Nat → Option WrappedFileImpl) : RawFile → List (Nat × Nat) → Nat → Prop
  | leaf {b t : Nat} {id : Nat} (hb : b ≠ null)
      (hbox : boxes b = some ⟨⟨t, b, N.wrappedFileIdent⟩, t, .leaf id⟩) : Chain boxes b [(b, t)] id
  | wrap {b t g : Nat} {bs : List (Nat × Nat)} {id : Nat} (hb : b ≠ null)
      (hbox : boxes b = some ⟨⟨t, b, N.wrappedFileIdent⟩, t, .file ⟨g⟩⟩)
      (hfresh : b ∉ bs.map Prod.fst) (inner : Chain boxes g bs id) : Chain boxes b ((b, t) :: bs) id

namespace Chain

variable {N} {B : Nat → Option WrappedFileImpl} {f : RawFile} {bs : List (Nat × Nat)} {id : Nat}

theorem frame {B' : Nat → Option WrappedFileImpl} (hc : Chain N B f bs id)
    (h : ∀ p ∈ bs.map Prod.fst, B' p = B p) : Chain N B' f bs id := by
  induction hc with
  | leaf hb hbox => exact .leaf hb ((h _ (by simp)).trans hbox)
  | wrap hb hbox hfresh _ ih =>
    exact .wrap hb ((h _ (by simp)).trans hbox) hfresh (ih fun p hp => h p (by simp [hp]))

theorem head (hc : Chain N B f bs id) : ∃ t rest, bs = (f, t) :: rest := by
  cases hc with
  | leaf => exact ⟨_, [], rfl⟩
  | wrap => exact ⟨_, _, rfl⟩

theorem nodup (hc : Chain N B f bs id) : (bs.map Prod.fst).Nodup := by
  induction hc with
  | leaf => exact List.nodup_cons.mpr ⟨List.not_mem_nil _, List.nodup_nil⟩
  | wrap _ _ hfresh _ ih => exact List.nodup_cons.mpr ⟨hfresh, ih⟩

theorem live (hc : Chain N B f bs id) : ∀ p ∈ bs.map Prod.fst, (B p).isSome := by
  induction hc with
  | leaf _ hbox => intro p hp; simp only [List.map_cons, List.map_nil, List.mem_singleton] at hp; simp [hp, hbox]
  | wrap _ hbox _ _ ih =>
    intro p hp
    simp only [List.map_cons, List.mem_cons] at hp
    rcases hp with rfl | hp
    · simp [hbox]
    · exact ih p hp

theorem box_of_mem (hc : Chain N B f bs id) {p t : Nat} (hp : (p, t) ∈ bs) :
    ∃ i, B p = some ⟨⟨t, p, N.wrappedFileIdent⟩, t, i⟩ := by
  induction hc with
  | leaf _ hbox =>
    obtain ⟨rfl, rfl⟩ := Prod.mk.inj (List.mem_singleton.mp hp)
    exact ⟨_, hbox⟩
  | wrap _ hbox _ _ ih =>
    rcases List.mem_cons.mp hp with h | h
    · obtain ⟨rfl, rfl⟩ := Prod.mk.inj h
      exact ⟨_, hbox⟩
    · exact ih h

end Chain

def Mem.dropChain (m : Mem) : List (Nat × Nat) → Nat → Mem
  | [], id => m.logDrop id
  | (b, t) :: bs, id => ((m.arcRelease t).dropChain bs id).setBox b none

namespace Mem

theorem boxes_dropChain (m : Mem) (bs : List (Nat × Nat)) (id : Nat) (p : Nat) :
    (m.dropChain bs id).boxes p = if p ∈ bs.map Prod.fst then none else m.boxes p := by
  induction bs generalizing m with
  | nil => rfl
  | cons x bs ih =>
    obtain ⟨b, t⟩ := x
    by_cases h : p = b
    · simp only [dropChain, setBox_boxes, h, Function.update_same, List.map_cons, List.mem_cons,
        true_or, if_true]
    · simp only [dropChain, setBox_boxes, Function.update_noteq h, ih, arcRelease_boxes, List.map_cons,
        List.mem_cons, h, false_or]

theorem strongOf_dropChain (m : Mem) (bs : List (Nat × Nat)) (id : Nat) (t : Nat) :
    (m.dropChain bs id).strongOf t = m.strongOf t - (bs.map Prod.snd).count t := by
  induction bs generalizing m with
  | nil => rfl
  | cons x bs ih =>
    obtain ⟨b, t'⟩ := x
    simp only [dropChain, strongOf_setBox, ih, strongOf_arcRelease, List.map_cons]
    rcases eq_or_ne t t' with rfl | ht
    · rw [if_pos rfl, List.count_cons_self]
      omega
    · rw [if_neg ht, List.count_cons_of_ne ht]

theorem dropped_dropChain (m : Mem) (bs : List (Nat × Nat)) (id : Nat) :
    (m.dropChain bs id).dropped = m.dropped ++ [id] := by
  induction bs generalizing m with
  | nil => rfl
  | cons x bs ih =>
    obtain ⟨b, t⟩ := x
    simp only [dropChain, setBox, ih, arcRelease_dropped]

end Mem

theorem drop_chain (leaves : Nat → FileMethods Mem) {B : Nat → Option WrappedFileImpl} {f : RawFile}
    {bs : List (Nat × Nat)} {id : Nat} (hc : Chain N B f bs id) :
    ∀ (m : Mem) (n : Nat), m.boxes = B → (∀ t, (bs.map Prod.snd).count t ≤ m.strongOf t) →
      bs.length ≤ n →
      (File.drop (methodsAt N leaves n) ⟨f⟩).run ⟨e, m⟩ = .ok (⟨null⟩, ⟨e, m.dropChain bs id⟩) := by
  induction hc with
  | @leaf b t id hb hbox =>
    intro m n hB hs hn
    cases n with
    | zero => exact absurd hn (by simp)
    | succ n =>
      obtain ⟨a, ha⟩ := m.tables_of_strongOf_pos t (by simpa using hs t)
      rw [← hB] at hbox
      exact drop_run hb hbox ha (close_run N hb hbox ha rfl (congrFun (Mem.arcRelease_boxes m t) b))
  | @wrap b t g bs id hb hbox hfresh _ ih =>
    intro m n hB hs hn
    cases n with
    | zero => exact absurd hn (by simp)
    | succ n =>
      obtain ⟨a, ha⟩ := m.tables_of_strongOf_pos t (by have := hs t; simp at this; omega)
      rw [← hB] at hbox
      have hinner := ih (m.arcRelease t) n (by rw [Mem.arcRelease_boxes, hB]) (m.counts_le_arcRelease hs)
        (by simpa using hn)
      refine drop_run hb hbox ha (close_run N hb hbox ha (run_bind_of_run hinner) ?_)
      rw [Mem.boxes_dropChain, if_neg hfresh, Mem.arcRelease_boxes]

end Heap

end NssLayering
