import NssLayering.Lifecycle

namespace NssLayering

namespace Heap

namespace Mem

variable (m : Mem)

theorem setTable_self {t : Nat} {v : Option ArcInner} (h : m.tables t = v) : m.setTable t v = m := by
  rw [setTable, ← h, Function.update_eq_self]

theorem setBox_self {p : Nat} {v : Option WrappedFileImpl} (h : m.boxes p = v) : m.setBox p v = m := by
  rw [setBox, ← h, Function.update_eq_self]

theorem arcRelease_arcRetain {t : Nat} {a : ArcInner} (ha : m.tables t = some a) (hpos : 0 < a.strong) :
    (m.arcRetain t).arcRelease t = m := by
  rw [arcRetain_of_some m ha, arcRelease_of_some _ (Function.update_same _ _ _),
    if_neg (by dsimp only; omega)]
  simp only [setTable, Function.update_idem]
  exact setTable_self m ha

theorem setBox_arcRelease (p : Nat) (v : Option WrappedFileImpl) (t : Nat) :
    (m.setBox p v).arcRelease t = (m.arcRelease t).setBox p v := by
  rcases h : m.tables t with _ | a
  · rw [arcRelease_of_none (m.setBox p v) h, arcRelease_of_none m h]
  · rw [arcRelease_of_some (m.setBox p v) h, arcRelease_of_some m h]
    split <;> rfl

theorem alloc_arcRelease (v : WrappedFileImpl) (t : Nat) :
    (m.alloc v).arcRelease t = (m.arcRelease t).alloc v := by
  rcases h : m.tables t with _ | a
  · rw [arcRelease_of_none (m.alloc v) h, arcRelease_of_none m h]
  · rw [arcRelease_of_some (m.alloc v) h, arcRelease_of_some m h]
    split <;> rfl

theorem setBox_setBox (p : Nat) (v w : Option WrappedFileImpl) :
    (m.setBox p v).setBox p w = m.setBox p w := by
  simp only [setBox, Function.update_idem]

theorem setBox_setBox_of_ne {p q : Nat} (h : p ≠ q) (v w : Option WrappedFileImpl) :
    (m.setBox p v).setBox q w = (m.setBox q w).setBox p v := by
  simp only [setBox, Function.update_comm h]

theorem dropChain_setBox {b : Nat} (v : Option WrappedFileImpl) (bs : List (Nat × Nat)) (id : Nat)
    (hb : b ∉ bs.map Prod.fst) : (m.setBox b v).dropChain bs id = (m.dropChain bs id).setBox b v := by
  induction bs generalizing m with
  | nil => rfl
  | cons x bs ih =>
    obtain ⟨b', t⟩ := x
    simp only [List.map_cons, List.mem_cons, not_or] at hb
    rw [dropChain, dropChain, setBox_arcRelease, ih _ hb.2, setBox_setBox_of_ne _ hb.1]

theorem arcRetain_alloc_arcRelease {t : Nat} {a : ArcInner} (ha : m.tables t = some a)
    (hpos : 0 < a.strong) (v : WrappedFileImpl) :
    ((m.arcRetain t).alloc v).arcRelease t = ({ m with next := m.next + 1 } : Mem).setBox m.next (some v) := by
  rw [alloc_arcRelease, arcRelease_arcRetain m ha hpos]
  rfl

theorem arcRetain_alloc_boxes (t : Nat) (v : WrappedFileImpl) :
    ((m.arcRetain t).alloc v).boxes m.next = some v := by
  rw [alloc_boxes, arcRetain_next, Function.update_same]

theorem dropChain_arcRetain_alloc {t : Nat} {a : ArcInner} (ha : m.tables t = some a)
    (hpos : 0 < a.strong) (hfresh : m.boxes m.next = none) (v : WrappedFileImpl)
    {bs : List (Nat × Nat)} (hb : m.next ∉ bs.map Prod.fst) (id : Nat) :
    ((m.arcRetain t).alloc v).dropChain ((m.next, t) :: bs) id =
      ({ m with next := m.next + 1 } : Mem).dropChain bs id := by
  rw [dropChain, arcRetain_alloc_arcRelease m ha hpos, dropChain_setBox _ _ _ _ hb, setBox_setBox,
    setBox_self]
  rw [boxes_dropChain, if_neg hb]
  exact hfresh

theorem counts_le_arcRetain_alloc {t : Nat} {a : ArcInner} (ha : m.tables t = some a)
    (bs : List (Nat × Nat)) (hs : ∀ t', (bs.map Prod.snd).count t' ≤ m.strongOf t') (b : Nat)
    (v : WrappedFileImpl) (t' : Nat) :
    (((b, t) :: bs).map Prod.snd).count t' ≤ ((m.arcRetain t).alloc v).strongOf t' := by
  have h := hs t'
  rw [strongOf_alloc, strongOf_arcRetain m t t' (by rw [ha]; rfl)]
  simp only [List.map_cons]
  rcases eq_or_ne t' t with rfl | ht
  · rw [if_pos rfl, List.count_cons_self]
    omega
  · rwa [if_neg ht, List.count_cons_of_ne ht]

end Mem

variable (N : Nspr) (leaves : Nat → FileMethods Mem) {e : Error} {m : Mem}

theorem counts_le_of_mem {bs : List (Nat × Nat)}
    (hs : ∀ t ∈ bs.map Prod.snd, (bs.map Prod.snd).count t ≤ m.strongOf t) (t : Nat) :
    (bs.map Prod.snd).count t ≤ m.strongOf t := by
  by_cases h : t ∈ bs.map Prod.snd
  · exact hs t h
  · rw [List.count_eq_zero_of_not_mem h]
    exact Nat.zero_le _

theorem drop_frees_chain {f : RawFile} {bs : List (Nat × Nat)} {id : Nat} (hc : Chain N m.boxes f bs id)
    (hs : ∀ t ∈ bs.map Prod.snd, (bs.map Prod.snd).count t ≤ m.strongOf t) {n : Nat}
    (hn : bs.length ≤ n) :
    ∃ m' : Mem, (File.drop (methodsAt N leaves n) ⟨f⟩).run ⟨e, m⟩ = .ok (⟨null⟩, ⟨e, m'⟩) ∧
      (∀ p, m'.boxes p = if p ∈ bs.map Prod.fst then none else m.boxes p) ∧
      (∀ t, m'.strongOf t = m.strongOf t - (bs.map Prod.snd).count t) ∧
      m'.dropped = m.dropped ++ [id] ∧ m'.next = m.next :=
  ⟨m.dropChain bs id, drop_chain N leaves hc m n rfl (counts_le_of_mem hs) hn, m.boxes_dropChain bs id,
    m.strongOf_dropChain bs id, m.dropped_dropChain bs id, m.next_dropChain bs id⟩

theorem drop_frees_chain_two_boxes :
    let N : Nspr := ⟨0, fun _ => 0, fun _ => none, fun _ => none, fun _ => ⟨0, []⟩, ⟨0, []⟩,
      fun _ => 0, fun _ => false, ⟨0, 0⟩, ⟨0, 0⟩⟩
    let m : Mem :=
      ⟨fun p => if p = 1 then some ⟨⟨3, 1, 0⟩, 3, .file ⟨2⟩⟩
        else if p = 2 then some ⟨⟨3, 2, 0⟩, 3, .leaf 7⟩ else none,
       fun t => if t = 3 then some ⟨2, .PR_DESC_PIPE⟩ else none, 4, []⟩
    let bs : List (Nat × Nat) := [(1, 3), (2, 3)]
    (Chain N m.boxes 1 bs 7 ∧ (∀ t ∈ bs.map Prod.snd, (bs.map Prod.snd).count t ≤ m.strongOf t) ∧
      bs.length ≤ 2) ∧
    ∃ m' : Mem, (File.drop (methodsAt N (fun _ => {}) 2) ⟨1⟩).run ⟨⟨0, 0⟩, m⟩ = .ok (⟨null⟩, ⟨⟨0, 0⟩, m'⟩) ∧
      (∀ p, m'.boxes p = if p ∈ bs.map Prod.fst then none else m.boxes p) ∧
      (∀ t, m'.strongOf t = m.strongOf t - (bs.map Prod.snd).count t) ∧
      m'.dropped = m.dropped ++ [7] ∧ m'.next = m.next :=
  have hc := Chain.wrap (by decide) rfl (by decide) (Chain.leaf (by decide) rfl)
  ⟨⟨hc, by decide, by decide⟩, drop_frees_chain _ _ hc (by decide) (by decide)⟩

theorem wrap_drop_leaf (w : FileWrapper) {a : ArcInner} (ha : m.tables w.methodsRef = some a)
    (hpos : 0 < a.strong) (hnext : m.next ≠ null) (hfresh : m.boxes m.next = none) (id : Nat) {n : Nat}
    (hn : 1 ≤ n) :
    (w.wrap N (.leaf id) >>= File.drop (methodsAt N leaves n)).run ⟨e, m⟩ =
      .ok (⟨null⟩, ⟨e, { m with next := m.next + 1, dropped := m.dropped ++ [id] }⟩) := by
  rw [run_bind_of_run (wrap_run N w _ ha hnext),
    drop_chain N leaves (.leaf hnext (m.arcRetain_alloc_boxes _ _)) _ n rfl
      (m.counts_le_arcRetain_alloc ha [] (fun _ => Nat.zero_le _) _ _) hn,
    m.dropChain_arcRetain_alloc ha hpos hfresh _ (List.not_mem_nil _)]
  rfl

theorem wrap_drop_leaf_empty :
    let N : Nspr := ⟨0, fun _ => 0, fun _ => none, fun _ => none, fun _ => ⟨0, []⟩, ⟨0, []⟩,
      fun _ => 0, fun _ => false, ⟨0, 0⟩, ⟨0, 0⟩⟩
    let m : Mem := ⟨fun _ => none, fun t => if t = 1 then some ⟨1, .PR_DESC_PIPE⟩ else none, 2, []⟩
    (m.tables 1 = some ⟨1, .PR_DESC_PIPE⟩ ∧ 0 < 1 ∧ m.next ≠ null ∧ m.boxes m.next = none ∧ 1 ≤ 1) ∧
    ((FileWrapper.wrap N ⟨1⟩ (.leaf 5) >>= File.drop (methodsAt N (fun _ => {}) 1)).run ⟨⟨0, 0⟩, m⟩ =
      .ok (⟨null⟩, ⟨⟨0, 0⟩, { m with next := m.next + 1, dropped := m.dropped ++ [5] }⟩)) :=
  ⟨⟨by decide, by decide, by decide, by decide, by decide⟩,
    wrap_drop_leaf _ _ ⟨1⟩ rfl (by decide) (by decide) (by decide) 5 (by decide)⟩

theorem wrap_drop_file (w : FileWrapper) {a : ArcInner} (ha : m.tables w.methodsRef = some a)
    (hpos : 0 < a.strong) (hnext : m.next ≠ null) (hfresh : m.boxes m.next = none) {g : RawFile}
    {bs : List (Nat × Nat)} {id : Nat} (hc : Chain N m.boxes g bs id)
    (hs : ∀ t ∈ bs.map Prod.snd, (bs.map Prod.snd).count t ≤ m.strongOf t) {n : Nat}
    (hn : bs.length ≤ n) :
    (w.wrap N (.file ⟨g⟩) >>= File.drop (methodsAt N leaves (n + 1))).run ⟨e, m⟩ =
      (File.drop (methodsAt N leaves n) ⟨g⟩).run ⟨e, { m with next := m.next + 1 }⟩ := by
  have hb : m.next ∉ bs.map Prod.fst := fun hp => by
    have := hc.live _ hp
    rw [hfresh] at this
    exact absurd this (by decide)
  rw [run_bind_of_run (wrap_run N w _ ha hnext),
    drop_chain N leaves (.wrap hnext (m.arcRetain_alloc_boxes _ _) hb (hc.frame fun p hp => ?_)) _ (n + 1)
      rfl (m.counts_le_arcRetain_alloc ha bs (counts_le_of_mem hs) _ _) (by simpa using hn),
    m.dropChain_arcRetain_alloc ha hpos hfresh _ hb,
    drop_chain N leaves hc { m with next := m.next + 1 } n rfl (counts_le_of_mem hs) hn]
  rw [Mem.alloc_boxes, Mem.arcRetain_boxes, Mem.arcRetain_next,
    Function.update_noteq (fun h : p = m.next => hb (h ▸ hp))]

theorem wrap_drop_file_two_boxes :
    let N : Nspr := ⟨0, fun _ => 0, fun _ => none, fun _ => none, fun _ => ⟨0, []⟩, ⟨0, []⟩,
      fun _ => 0, fun _ => false, ⟨0, 0⟩, ⟨0, 0⟩⟩
    let m : Mem :=
      ⟨fun p => if p = 1 then some ⟨⟨3, 1, 0⟩, 3, .file ⟨2⟩⟩
        else if p = 2 then some ⟨⟨3, 2, 0⟩, 3, .leaf 7⟩ else none,
       fun t => if t = 3 then some ⟨3, .PR_DESC_PIPE⟩ else none, 4, []⟩
    let bs : List (Nat × Nat) := [(1, 3), (2, 3)]
    (m.tables 3 = some ⟨3, .PR_DESC_PIPE⟩ ∧ 0 < 3 ∧ m.next ≠ null ∧ m.boxes m.next = none ∧
      Chain N m.boxes 1 bs 7 ∧ (∀ t ∈ bs.map Prod.snd, (bs.map Prod.snd).count t ≤ m.strongOf t) ∧
      bs.length ≤ 2) ∧
    ((FileWrapper.wrap N ⟨3⟩ (.file ⟨1⟩) >>= File.drop (methodsAt N (fun _ => {}) 3)).run ⟨⟨0, 0⟩, m⟩ =
      (File.drop (methodsAt N (fun _ => {}) 2) ⟨1⟩).run ⟨⟨0, 0⟩, { m with next := m.next + 1 }⟩) :=
  have hc := Chain.wrap (by decide) rfl (by decide) (Chain.leaf (by decide) rfl)
  ⟨⟨by decide, by decide, by decide, by decide, hc, by decide, by decide⟩,
    wrap_drop_file _ _ ⟨3⟩ rfl (by decide) (by decide) (by decide) hc (by decide) (by decide)⟩

end Heap

end NssLayering
