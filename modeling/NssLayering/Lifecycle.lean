import NssLayering.Ownership
import Mathlib.Data.List.Nodup

namespace NssLayering

namespace Heap

structure Client where
  world : World Mem
  files : List File
  wrappers : List FileWrapper
  given : List Nat

def Client.init (e : Error) : Client := ⟨⟨e, Mem.empty⟩, [], [], []⟩

inductive Call where
  | newWrapper (fileType : PRDescType)
  | wrapLeaf (wrapper : FileWrapper) (id : Nat)
  | wrapFile (wrapper : FileWrapper) (file : File)
  | dropFile (file : File)
  | dropWrapper (wrapper : FileWrapper)
  deriving DecidableEq, Repr

variable (N : Nspr) (leaves : Nat → FileMethods Mem)

def Client.call (c : Client) : Call → Except String Client
  | .newWrapper fileType => do
    let (w, world) ← (FileWrapper.new fileType).run c.world
    pure { c with world, wrappers := w :: c.wrappers }
  | .wrapLeaf w id =>
    if w ∈ c.wrappers then do
      let (f, world) ← (w.wrap N (.leaf id)).run c.world
      pure { c with world, files := f :: c.files, given := id :: c.given }
    else pure c
  | .wrapFile w g =>
    if w ∈ c.wrappers ∧ g ∈ c.files then do
      let (f, world) ← (w.wrap N (.file g)).run c.world
      pure { c with world, files := f :: c.files.filter (· != g) }
    else pure c
  | .dropFile g =>
    if g ∈ c.files then do
      let (_, world) ← (File.drop (methodsAt N leaves c.world.ext.next) g).run c.world
      pure { c with world, files := c.files.filter (· != g) }
    else pure c
  | .dropWrapper w =>
    if w ∈ c.wrappers then do
      let (_, world) ← w.drop.run c.world
      pure { c with world, wrappers := c.wrappers.erase w }
    else pure c

def Client.calls (c : Client) : List Call → Except String Client
  | [] => pure c
  | call :: rest => do (← c.call N leaves call).calls rest

abbrev Owned := File × List (Nat × Nat) × Nat

def boxesOf (chains : List Owned) : List (Nat × Nat) := chains.flatMap fun x => x.2.1

namespace Mem

variable (m : Mem)

@[simp] theorem arcAlloc_boxes (a : ArcInner) : (m.arcAlloc a).boxes = m.boxes := rfl

@[simp] theorem arcAlloc_next (a : ArcInner) : (m.arcAlloc a).next = m.next + 1 := rfl

@[simp] theorem alloc_tables (v : WrappedFileImpl) : (m.alloc v).tables = m.tables := rfl

@[simp] theorem alloc_next (v : WrappedFileImpl) : (m.alloc v).next = m.next + 1 := rfl

@[simp] theorem strongOf_alloc (v : WrappedFileImpl) (t : Nat) : (m.alloc v).strongOf t = m.strongOf t :=
  rfl

theorem tables_arcAlloc (a : ArcInner) (t : Nat) :
    (m.arcAlloc a).tables t = if t = m.next then some a else m.tables t := by
  simp only [arcAlloc, setTable, Function.update_apply]

theorem strongOf_arcAlloc (a : ArcInner) (t : Nat) :
    (m.arcAlloc a).strongOf t = if t = m.next then a.strong else m.strongOf t := by
  simp only [strongOf, tables_arcAlloc]
  split <;> rfl

theorem tables_arcRetain_of_ne {t t' : Nat} (h : t' ≠ t) : (m.arcRetain t).tables t' = m.tables t' := by
  unfold arcRetain
  split
  · simp only [setTable, Function.update_noteq h]
  · rfl

theorem tables_arcRelease_of_ne {t t' : Nat} (h : t' ≠ t) : (m.arcRelease t).tables t' = m.tables t' := by
  unfold arcRelease
  split
  · split <;> simp only [setTable, Function.update_noteq h]
  · rfl

theorem tables_arcRelease_of_none {t t' : Nat} (h : m.tables t' = none) :
    (m.arcRelease t).tables t' = none := by
  by_cases ht : t' = t
  · subst ht
    rw [arcRelease_of_none m h, h]
  · rw [tables_arcRelease_of_ne m ht, h]

def Pos : Prop := ∀ t a, m.tables t = some a → 0 < a.strong

variable {m}

theorem Pos.arcRetain (h : m.Pos) (t : Nat) : (m.arcRetain t).Pos := by
  intro t' a ha
  by_cases ht : t' = t
  · subst ht
    unfold Mem.arcRetain at ha
    split at ha
    · simp only [setTable, Function.update_same, Option.some.injEq] at ha
      rw [← ha]
      exact Nat.succ_pos _
    · exact h t' a ha
  · exact h t' a (by rwa [tables_arcRetain_of_ne m ht] at ha)

theorem Pos.arcRelease (h : m.Pos) (t : Nat) : (m.arcRelease t).Pos := by
  intro t' a ha
  by_cases ht : t' = t
  · subst ht
    cases hm : m.tables t' with
    | none => rw [tables_arcRelease_of_none m hm] at ha; cases ha
    | some b =>
      have hb := h t' b hm
      rw [arcRelease_of_some m hm] at ha
      split at ha
      · simp only [setTable, Function.update_same, reduceCtorEq] at ha
      · simp only [setTable, Function.update_same, Option.some.injEq] at ha
        rw [← ha]
        dsimp only
        omega
  · exact h t' a (by rwa [tables_arcRelease_of_ne m ht] at ha)

theorem Pos.dropChain (h : m.Pos) (bs : List (Nat × Nat)) (id : Nat) : (m.dropChain bs id).Pos := by
  induction bs generalizing m with
  | nil => exact h
  | cons x bs ih =>
    obtain ⟨b, t⟩ := x
    exact ih (h.arcRelease t)

theorem Pos.arcAlloc (h : m.Pos) {a : ArcInner} (ha : 0 < a.strong) : (m.arcAlloc a).Pos := by
  intro t b hb
  rw [tables_arcAlloc] at hb
  split at hb
  · exact Option.some.inj hb ▸ ha
  · exact h t b hb

end Mem

theorem Mem.tables_dropChain_of_none (m : Mem) (bs : List (Nat × Nat)) (id : Nat) {p : Nat}
    (h : m.tables p = none) : (m.dropChain bs id).tables p = none := by
  induction bs generalizing m with
  | nil => exact h
  | cons x bs ih =>
    obtain ⟨b, t⟩ := x
    exact ih (m.arcRelease t) (m.tables_arcRelease_of_none h)

theorem Mem.next_dropChain (m : Mem) (bs : List (Nat × Nat)) (id : Nat) :
    (m.dropChain bs id).next = m.next := by
  induction bs generalizing m with
  | nil => rfl
  | cons x bs ih =>
    obtain ⟨b, t⟩ := x
    exact (ih (m.arcRelease t)).trans (m.arcRelease_next t)

structure Client.Owns (c : Client) (chains : List Owned) : Prop where
  files : chains.map Prod.fst = c.files
  chain : ∀ x ∈ chains, Chain N c.world.ext.boxes x.1.raw x.2.1 x.2.2
  nodup : ((boxesOf chains).map Prod.fst).Nodup
  live : ∀ p, (c.world.ext.boxes p).isSome ↔ p ∈ (boxesOf chains).map Prod.fst
  strong : ∀ t, c.world.ext.strongOf t =
    (c.wrappers.map FileWrapper.methodsRef).count t + ((boxesOf chains).map Prod.snd).count t
  pos : c.world.ext.Pos
  fresh : ∀ p : Nat, c.world.ext.next ≤ p → c.world.ext.boxes p = none ∧ c.world.ext.tables p = none
  next_pos : 0 < c.world.ext.next
  given : (c.world.ext.dropped ++ chains.map fun x => x.2.2).Perm c.given

@[simp] theorem boxesOf_nil : boxesOf [] = [] := rfl

@[simp] theorem boxesOf_cons (x : Owned) (chains : List Owned) :
    boxesOf (x :: chains) = x.2.1 ++ boxesOf chains := rfl

theorem boxesOf_perm {chains chains' : List Owned} (h : chains.Perm chains') :
    (boxesOf chains).Perm (boxesOf chains') :=
  h.flatMap_right _

theorem Chain.head_mem {B : Nat → Option WrappedFileImpl} {f : RawFile} {bs : List (Nat × Nat)}
    {id : Nat} (hc : Chain N B f bs id) : f ∈ bs.map Prod.fst := by
  obtain ⟨t, rest, rfl⟩ := hc.head
  exact List.mem_cons_self _ _

theorem heads_nodup {B : Nat → Option WrappedFileImpl} {chains : List Owned}
    (hc : ∀ x ∈ chains, Chain N B x.1.raw x.2.1 x.2.2) (hnd : ((boxesOf chains).map Prod.fst).Nodup) :
    (chains.map Prod.fst).Nodup := by
  induction chains with
  | nil => exact List.nodup_nil
  | cons x chains ih =>
    rw [boxesOf_cons, List.map_append, List.nodup_append] at hnd
    refine List.nodup_cons.mpr ⟨fun hx => ?_, ih (fun y hy => hc y (List.mem_cons_of_mem _ hy)) hnd.2.1⟩
    obtain ⟨y, hy, hyx⟩ := List.mem_map.mp hx
    have hhead : x.1.raw ∈ (boxesOf chains).map Prod.fst :=
      hyx ▸ List.mem_map.mpr (by
        obtain ⟨p, hp, hpy⟩ := List.mem_map.mp ((hc y (List.mem_cons_of_mem _ hy)).head_mem)
        exact ⟨p, List.mem_flatMap.mpr ⟨y, hy, hp⟩, hpy⟩)
    exact hnd.2.2 ((hc x (List.mem_cons_self _ _)).head_mem) hhead

theorem filter_fst_eq_singleton {chains : List Owned} {x : Owned} (hnd : (chains.map Prod.fst).Nodup)
    (hx : x ∈ chains) : chains.filter (fun y => y.1 == x.1) = [x] := by
  induction chains with
  | nil => exact absurd hx (List.not_mem_nil _)
  | cons y chains ih =>
    obtain ⟨hy, hnd⟩ := List.nodup_cons.mp hnd
    rcases List.mem_cons.mp hx with rfl | hx
    · rw [List.filter_cons_of_pos (by simp), List.filter_eq_nil_iff.mpr]
      intro z hz hzx
      exact hy (List.mem_map.mpr ⟨z, hz, by simpa using hzx⟩)
    · have hne : y.1 ≠ x.1 := fun h => hy (h ▸ List.mem_map_of_mem _ hx)
      rw [List.filter_cons_of_neg (by simpa using hne), ih hnd hx]

variable {N leaves}

theorem Client.Owns.table_live {c : Client} {chains : List Owned} (h : c.Owns N chains)
    {w : FileWrapper} (hw : w ∈ c.wrappers) : ∃ a, c.world.ext.tables w.methodsRef = some a := by
  refine c.world.ext.tables_of_strongOf_pos _ ?_
  rw [h.strong]
  have : 0 < (c.wrappers.map FileWrapper.methodsRef).count w.methodsRef :=
    List.count_pos_iff.mpr (List.mem_map_of_mem _ hw)
  omega

theorem Client.Owns.newWrapper {c : Client} {chains : List Owned} (h : c.Owns N chains)
    (fileType : PRDescType) :
    ∃ c', c.call N leaves (.newWrapper fileType) = .ok c' ∧ c'.Owns N chains := by
  obtain ⟨⟨e, m⟩, files, wrappers, given⟩ := c
  refine ⟨⟨⟨e, m.arcAlloc ⟨1, fileType⟩⟩, files, ⟨m.next⟩ :: wrappers, given⟩, ?_, ?_⟩
  · simp only [Client.call, new_run]
    rfl
  have hfresh : ∀ p : Nat, m.next ≤ p → m.boxes p = none ∧ m.tables p = none := h.fresh
  obtain ⟨hbox, htab⟩ := hfresh m.next le_rfl
  refine ⟨h.files, h.chain, h.nodup, h.live, fun t => ?_, h.pos.arcAlloc Nat.one_pos, fun p hp => ?_,
    Nat.lt_succ_of_lt h.next_pos, h.given⟩
  · have hs : m.strongOf t = (wrappers.map FileWrapper.methodsRef).count t +
        ((boxesOf chains).map Prod.snd).count t := h.strong t
    simp only [Mem.strongOf_arcAlloc, List.map_cons]
    rcases eq_or_ne t m.next with rfl | ht
    · have hz : m.strongOf m.next = 0 := by simp only [Mem.strongOf, htab, Option.map_none', Option.getD_none]
      rw [if_pos rfl, List.count_cons_self]
      omega
    · rw [if_neg ht, List.count_cons_of_ne ht]
      exact hs
  · have hp : m.next + 1 ≤ p := hp
    refine ⟨(hfresh p (by omega)).1, ?_⟩
    show (m.arcAlloc _).tables p = none
    rw [Mem.tables_arcAlloc, if_neg (by omega)]
    exact (hfresh p (by omega)).2

theorem Client.Owns.lt_next {c : Client} {chains : List Owned} (h : c.Owns N chains) {p : Nat}
    (hp : (c.world.ext.boxes p).isSome ∨ (c.world.ext.tables p).isSome) : p < c.world.ext.next := by
  refine Nat.lt_of_not_le fun hle => ?_
  obtain ⟨hb, ht⟩ := h.fresh p hle
  rw [hb, ht] at hp
  simp at hp

theorem Client.Owns.wrap_step {e : Error} {m : Mem} {files : List File} {wrappers : List FileWrapper}
    {given : List Nat} {chains : List Owned} (h : Client.Owns N ⟨⟨e, m⟩, files, wrappers, given⟩ chains)
    {w : FileWrapper} {a : ArcInner} (ha : m.tables w.methodsRef = some a)
    (inner : Inner) {chains' : List Owned} {files' : List File} {given' : List Nat}
    (hperm : (boxesOf chains').Perm ((m.next, w.methodsRef) :: boxesOf chains))
    (hfiles : chains'.map Prod.fst = files')
    (hchain : ∀ x ∈ chains', Chain N ((m.arcRetain w.methodsRef).alloc
      ⟨⟨w.methodsRef, m.next, N.wrappedFileIdent⟩, w.methodsRef, inner⟩).boxes x.1.raw x.2.1 x.2.2)
    (hgiven : (m.dropped ++ chains'.map fun x => x.2.2).Perm given') :
    Client.Owns N ⟨⟨e, (m.arcRetain w.methodsRef).alloc
      ⟨⟨w.methodsRef, m.next, N.wrappedFileIdent⟩, w.methodsRef, inner⟩⟩, files', wrappers, given'⟩
      chains' := by
  have hfresh : ∀ p : Nat, m.next ≤ p → m.boxes p = none ∧ m.tables p = none := h.fresh
  have hlive : ∀ p, (m.boxes p).isSome ↔ p ∈ (boxesOf chains).map Prod.fst := h.live
  have htlt : w.methodsRef < m.next := h.lt_next (Or.inr (by simp [ha]))
  have hnot : m.next ∉ (boxesOf chains).map Prod.fst := by
    rw [← hlive, (hfresh m.next le_rfl).1]
    simp
  rw [Mem.arcRetain_of_some m ha] at hchain ⊢
  refine ⟨hfiles, hchain, ?_, fun p => ?_, fun t => ?_, ?_, fun p hp => ?_, Nat.succ_pos _, hgiven⟩
  · rw [(hperm.map Prod.fst).nodup_iff, List.map_cons]
    exact List.nodup_cons.mpr ⟨hnot, h.nodup⟩
  · rw [(hperm.map Prod.fst).mem_iff, List.map_cons, List.mem_cons, ← hlive]
    show (Function.update m.boxes m.next _ p).isSome ↔ _
    by_cases hp : p = m.next
    · subst hp
      simp
    · simp only [Function.update_noteq hp, hp, false_or]
  · have hs : m.strongOf t = (wrappers.map FileWrapper.methodsRef).count t +
        ((boxesOf chains).map Prod.snd).count t := h.strong t
    have ham : m.strongOf w.methodsRef = a.strong := by simp [Mem.strongOf, ha]
    rw [(hperm.map Prod.snd).count_eq]
    simp only [List.map_cons, Mem.strongOf_alloc, Mem.strongOf_setTable]
    rcases eq_or_ne t w.methodsRef with rfl | ht
    · rw [if_pos rfl, List.count_cons_self, Option.map_some', Option.getD_some]
      dsimp only
      omega
    · rw [if_neg ht, List.count_cons_of_ne ht]
      exact hs
  · have hpos : (m.arcRetain w.methodsRef).Pos := h.pos.arcRetain _
    rw [Mem.arcRetain_of_some m ha] at hpos
    exact hpos
  · have hp : m.next + 1 ≤ p := hp
    refine ⟨?_, ?_⟩
    · show Function.update m.boxes m.next _ p = none
      rw [Function.update_noteq (by omega)]
      exact (hfresh p (by omega)).1
    · show Function.update m.tables w.methodsRef _ p = none
      rw [Function.update_noteq (by omega)]
      exact (hfresh p (by omega)).2

theorem Client.Owns.split {c : Client} {chains : List Owned} (h : c.Owns N chains) {g : File}
    (hg : g ∈ c.files) : ∃ x ∈ chains, x.1 = g ∧ chains.Perm (x :: chains.filter fun y => y.1 != g) := by
  rw [← h.files] at hg
  obtain ⟨x, hx, rfl⟩ := List.mem_map.mp hg
  refine ⟨x, hx, rfl, ?_⟩
  have hperm := (List.filter_append_perm (fun y => y.1 == x.1) chains).symm
  rw [filter_fst_eq_singleton (heads_nodup N h.chain h.nodup) hx] at hperm
  exact hperm

theorem Client.Owns.files_filter {c : Client} {chains : List Owned} (h : c.Owns N chains) (g : File) :
    (chains.filter fun y => y.1 != g).map Prod.fst = c.files.filter (· != g) := by
  rw [← h.files, List.filter_map]
  rfl

theorem Client.Owns.chain_alloc {e : Error} {m : Mem} {files : List File} {wrappers : List FileWrapper}
    {given : List Nat} {chains : List Owned} (h : Client.Owns N ⟨⟨e, m⟩, files, wrappers, given⟩ chains)
    (t : Nat) (v : WrappedFileImpl) {x : Owned} (hx : x ∈ chains) :
    Chain N ((m.arcRetain t).alloc v).boxes x.1.raw x.2.1 x.2.2 :=
  (h.chain x hx).frame fun p hp => by
    have hlt : p < m.next := h.lt_next (Or.inl ((h.chain x hx).live p hp))
    rw [Mem.alloc_boxes, Mem.arcRetain_next, Function.update_noteq (Nat.ne_of_lt hlt),
      Mem.arcRetain_boxes]

theorem Client.Owns.wrapLeaf {c : Client} {chains : List Owned} (h : c.Owns N chains)
    (w : FileWrapper) (id : Nat) :
    ∃ c' chains', c.call N leaves (.wrapLeaf w id) = .ok c' ∧ c'.Owns N chains' := by
  obtain ⟨⟨e, m⟩, files, wrappers, given⟩ := c
  by_cases hw : w ∈ wrappers
  · obtain ⟨a, ha⟩ := h.table_live hw
    have hnext : m.next ≠ null := Nat.ne_of_gt h.next_pos
    refine ⟨_, (⟨m.next⟩, [(m.next, w.methodsRef)], id) :: chains, ?_,
      h.wrap_step ha (.leaf id) (List.Perm.refl _) (by rw [List.map_cons, h.files]) ?_
        (List.perm_middle.trans (h.given.cons id))⟩
    · simp only [Client.call, if_pos hw, wrap_run N w _ ha hnext]
      rfl
    · intro x hx
      rcases List.mem_cons.mp hx with rfl | hx
      · refine .leaf hnext ?_
        rw [Mem.alloc_boxes, Mem.arcRetain_next, Function.update_same]
      · exact h.chain_alloc _ _ hx
  · exact ⟨_, chains, by simp only [Client.call, if_neg hw]; rfl, h⟩

theorem Client.Owns.wrapFile {c : Client} {chains : List Owned} (h : c.Owns N chains)
    (w : FileWrapper) (g : File) :
    ∃ c' chains', c.call N leaves (.wrapFile w g) = .ok c' ∧ c'.Owns N chains' := by
  obtain ⟨⟨e, m⟩, files, wrappers, given⟩ := c
  by_cases hwg : w ∈ wrappers ∧ g ∈ files
  · obtain ⟨hw, hg⟩ := hwg
    obtain ⟨a, ha⟩ := h.table_live hw
    have hnext : m.next ≠ null := Nat.ne_of_gt h.next_pos
    obtain ⟨x, hx, rfl, hsplit⟩ := h.split hg
    have hlive : ∀ p, (m.boxes p).isSome ↔ p ∈ (boxesOf chains).map Prod.fst := h.live
    have hfresh : m.next ∉ x.2.1.map Prod.fst := fun hp => by
      have := (hlive m.next).mpr (List.mem_map.mpr (by
        obtain ⟨q, hq, hqe⟩ := List.mem_map.mp hp
        exact ⟨q, List.mem_flatMap.mpr ⟨x, hx, hq⟩, hqe⟩))
      rw [(h.fresh m.next le_rfl).1] at this
      cases this
    refine ⟨_, (⟨m.next⟩, (m.next, w.methodsRef) :: x.2.1, x.2.2) ::
        chains.filter (fun y => y.1 != x.1), ?_,
      h.wrap_step ha (.file x.1) ((boxesOf_perm hsplit).symm.cons _)
        (by rw [List.map_cons, h.files_filter]) ?_
        (((hsplit.map fun y => y.2.2).append_left m.dropped).symm.trans h.given)⟩
    · simp only [Client.call, if_pos (And.intro hw hg), wrap_run N w _ ha hnext]
      rfl
    · intro y hy
      rcases List.mem_cons.mp hy with rfl | hy
      · refine .wrap hnext ?_ hfresh (h.chain_alloc _ _ hx)
        rw [Mem.alloc_boxes, Mem.arcRetain_next, Function.update_same]
      · exact h.chain_alloc _ _ (List.mem_of_mem_filter hy)
  · exact ⟨_, chains, by simp only [Client.call, if_neg hwg]; rfl, h⟩

theorem length_le_of_nodup_lt {l : List Nat} {n : Nat} (hnd : l.Nodup) (h : ∀ x ∈ l, x < n) :
    l.length ≤ n := by
  have hsub := (List.subperm_of_subset hnd fun x hx => List.mem_range.mpr (h x hx)).length_le
  rwa [List.length_range] at hsub

theorem Client.Owns.chain_length_le {c : Client} {chains : List Owned} (h : c.Owns N chains)
    {x : Owned} (hx : x ∈ chains) : x.2.1.length ≤ c.world.ext.next := by
  have hchain := h.chain x hx
  rw [← List.length_map x.2.1 Prod.fst]
  exact length_le_of_nodup_lt hchain.nodup fun p hp => h.lt_next (Or.inl (hchain.live p hp))

theorem Client.Owns.chain_tables {c : Client} {chains : List Owned} (h : c.Owns N chains)
    {x : Owned} (hx : x ∈ chains) : ∀ p ∈ x.2.1, (c.world.ext.tables p.2).isSome := fun p hp => by
  refine Option.isSome_iff_exists.mpr (c.world.ext.tables_of_strongOf_pos p.2 ?_)
  have : 0 < ((boxesOf chains).map Prod.snd).count p.2 :=
    List.count_pos_iff.mpr (List.mem_map_of_mem _ (List.mem_flatMap.mpr ⟨x, hx, hp⟩))
  rw [h.strong]
  omega

theorem Client.Owns.box_valid {c : Client} {chains : List Owned} (h : c.Owns N chains) {p : Nat}
    {v : WrappedFileImpl} (hv : c.world.ext.boxes p = some v) :
    v.prfd = ⟨v.methodsRef, p, N.wrappedFileIdent⟩ ∧ (c.world.ext.tables v.methodsRef).isSome := by
  obtain ⟨⟨p', t⟩, hpt, rfl⟩ := List.mem_map.mp ((h.live p).mp (by rw [hv]; rfl))
  obtain ⟨x, hx, hpx⟩ := List.mem_flatMap.mp hpt
  obtain ⟨i, hi⟩ := (h.chain x hx).box_of_mem hpx
  obtain rfl := Option.some.inj (hv.symm.trans hi)
  exact ⟨rfl, h.chain_tables hx _ hpx⟩

theorem Client.Owns.dropFile {c : Client} {chains : List Owned} (h : c.Owns N chains) (g : File) :
    ∃ c' chains', c.call N leaves (.dropFile g) = .ok c' ∧ c'.Owns N chains' := by
  obtain ⟨⟨e, m⟩, files, wrappers, given⟩ := c
  by_cases hg : g ∈ files
  · obtain ⟨x, hx, rfl, hsplit⟩ := h.split hg
    have hboxes : (boxesOf chains).Perm (x.2.1 ++ boxesOf (chains.filter fun y => y.1 != x.1)) :=
      boxesOf_perm hsplit
    have hnd := (hboxes.map Prod.fst).nodup_iff.mp h.nodup
    rw [List.map_append] at hnd
    have hdisj := List.disjoint_of_nodup_append hnd
    have hlive : ∀ p, (m.boxes p).isSome ↔ p ∈ (boxesOf chains).map Prod.fst := h.live
    have hstrong : ∀ t, m.strongOf t = (wrappers.map FileWrapper.methodsRef).count t +
        (x.2.1.map Prod.snd).count t + ((boxesOf (chains.filter fun y => y.1 != x.1)).map Prod.snd).count t :=
      fun t => by
        have hs : m.strongOf t = (wrappers.map FileWrapper.methodsRef).count t +
            ((boxesOf chains).map Prod.snd).count t := h.strong t
        rw [(hboxes.map Prod.snd).count_eq, List.map_append, List.count_append] at hs
        omega
    have hchain : Chain N m.boxes x.1.raw x.2.1 x.2.2 := h.chain x hx
    have hlen : x.2.1.length ≤ m.next := h.chain_length_le hx
    have hrun : (File.drop (methodsAt N leaves m.next) x.1).run ⟨e, m⟩ =
        .ok (⟨null⟩, ⟨e, m.dropChain x.2.1 x.2.2⟩) :=
      drop_chain N leaves hchain m m.next rfl (fun t => by have := hstrong t; omega) hlen
    have hframe : ∀ p ∈ (boxesOf (chains.filter fun y => y.1 != x.1)).map Prod.fst,
        (m.dropChain x.2.1 x.2.2).boxes p = m.boxes p := fun p hp => by
      rw [Mem.boxes_dropChain, if_neg fun hx' => hdisj hx' hp]
    refine ⟨⟨⟨e, m.dropChain x.2.1 x.2.2⟩, files.filter (· != x.1), wrappers, given⟩,
      chains.filter (fun y => y.1 != x.1), ?_, ?_⟩
    · simp only [Client.call, if_pos hg]
      rw [hrun]
      rfl
    have hfresh : ∀ p : Nat, m.next ≤ p → m.boxes p = none ∧ m.tables p = none := h.fresh
    refine ⟨h.files_filter x.1, fun y hy => (h.chain y (List.mem_of_mem_filter hy)).frame fun p hp =>
        hframe p (List.mem_map.mpr ?_), List.Nodup.of_append_right hnd, fun p => ?_, fun t => ?_,
      h.pos.dropChain _ _, fun p hp => ?_, ?_, ?_⟩
    · obtain ⟨q, hq, hqe⟩ := List.mem_map.mp hp
      exact ⟨q, List.mem_flatMap.mpr ⟨y, hy, hq⟩, hqe⟩
    · show ((m.dropChain x.2.1 x.2.2).boxes p).isSome ↔ _
      rw [Mem.boxes_dropChain]
      by_cases hp : p ∈ x.2.1.map Prod.fst
      · rw [if_pos hp]
        simp only [Option.isSome_none, Bool.false_eq_true, false_iff]
        exact hdisj hp
      · rw [if_neg hp, hlive, (hboxes.map Prod.fst).mem_iff, List.map_append, List.mem_append]
        simp only [hp, false_or]
    · show (m.dropChain x.2.1 x.2.2).strongOf t = (wrappers.map FileWrapper.methodsRef).count t +
        ((boxesOf (chains.filter fun y => y.1 != x.1)).map Prod.snd).count t
      rw [Mem.strongOf_dropChain, hstrong t]
      omega
    · have hp : m.next ≤ p := by rw [← Mem.next_dropChain m x.2.1 x.2.2]; exact hp
      refine ⟨?_, Mem.tables_dropChain_of_none m _ _ (hfresh p hp).2⟩
      show (m.dropChain x.2.1 x.2.2).boxes p = none
      rw [Mem.boxes_dropChain]
      split
      · rfl
      · exact (hfresh p hp).1
    · show 0 < (m.dropChain x.2.1 x.2.2).next
      rw [Mem.next_dropChain]
      exact h.next_pos
    · show ((m.dropChain x.2.1 x.2.2).dropped ++ _).Perm given
      rw [Mem.dropped_dropChain, List.append_assoc, List.singleton_append]
      exact ((hsplit.map fun y => y.2.2).append_left m.dropped).symm.trans h.given
  · exact ⟨_, chains, by simp only [Client.call, if_neg hg]; rfl, h⟩

theorem Client.Owns.dropWrapper {c : Client} {chains : List Owned} (h : c.Owns N chains)
    (w : FileWrapper) :
    ∃ c' chains', c.call N leaves (.dropWrapper w) = .ok c' ∧ c'.Owns N chains' := by
  obtain ⟨⟨e, m⟩, files, wrappers, given⟩ := c
  by_cases hw : w ∈ wrappers
  · obtain ⟨a, ha⟩ := h.table_live hw
    refine ⟨⟨⟨e, m.arcRelease w.methodsRef⟩, files, wrappers.erase w, given⟩, chains, ?_, ?_⟩
    · simp only [Client.call, if_pos hw, wrapperDrop_run ha]
      rfl
    have hfresh : ∀ p : Nat, m.next ≤ p → m.boxes p = none ∧ m.tables p = none := h.fresh
    have hB : (m.arcRelease w.methodsRef).boxes = m.boxes := Mem.arcRelease_boxes m _
    have hinj : Function.Injective FileWrapper.methodsRef := fun ⟨_⟩ ⟨_⟩ hab => congrArg FileWrapper.mk hab
    refine ⟨h.files, fun x hx => hB ▸ h.chain x hx, h.nodup, fun p => hB ▸ h.live p, fun t => ?_,
      h.pos.arcRelease _, fun p hp => ?_, (Mem.arcRelease_next m _).symm ▸ h.next_pos,
      (Mem.arcRelease_dropped m _).symm ▸ h.given⟩
    · have hs : ∀ t, m.strongOf t = (wrappers.map FileWrapper.methodsRef).count t +
          ((boxesOf chains).map Prod.snd).count t := h.strong
      have hpos : 0 < (wrappers.map FileWrapper.methodsRef).count w.methodsRef :=
        List.count_pos_iff.mpr (List.mem_map_of_mem _ hw)
      show (m.arcRelease w.methodsRef).strongOf t = ((wrappers.erase w).map FileWrapper.methodsRef).count t +
        ((boxesOf chains).map Prod.snd).count t
      rw [Mem.strongOf_arcRelease, List.map_erase hinj, List.count_erase, hs, hs]
      rcases eq_or_ne t w.methodsRef with rfl | ht
      · simp only [if_pos rfl, beq_self_eq_true, if_true]
        omega
      · rw [if_neg ht, if_neg (by simpa using Ne.symm ht)]
        omega
    · have hp : m.next ≤ p := (Mem.arcRelease_next m w.methodsRef) ▸ hp
      exact ⟨hB ▸ (hfresh p hp).1, m.tables_arcRelease_of_none (hfresh p hp).2⟩
  · exact ⟨_, chains, by simp only [Client.call, if_neg hw]; rfl, h⟩

theorem Client.Owns.call_ok {c : Client} {chains : List Owned} (h : c.Owns N chains) :
    ∀ call : Call, ∃ c' chains', c.call N leaves call = .ok c' ∧ c'.Owns N chains'
  | .newWrapper fileType =>
    let ⟨c', hc, hown⟩ := h.newWrapper fileType
    ⟨c', chains, hc, hown⟩
  | .wrapLeaf w id => h.wrapLeaf w id
  | .wrapFile w g => h.wrapFile w g
  | .dropFile g => h.dropFile g
  | .dropWrapper w => h.dropWrapper w

theorem Client.Owns.calls_ok {c : Client} {chains : List Owned} (h : c.Owns N chains)
    (calls : List Call) : ∃ c' chains', c.calls N leaves calls = .ok c' ∧ c'.Owns N chains' := by
  induction calls generalizing c chains with
  | nil => exact ⟨c, chains, rfl, h⟩
  | cons call rest ih =>
    obtain ⟨c₁, chains₁, hc₁, hown₁⟩ := h.call_ok call
    obtain ⟨c₂, chains₂, hc₂, hown₂⟩ := ih hown₁
    refine ⟨c₂, chains₂, ?_, hown₂⟩
    rw [Client.calls, hc₁]
    exact hc₂

theorem Client.init_owns (e : Error) : (Client.init e).Owns N [] where
  files := rfl
  chain := fun _ hx => absurd hx (List.not_mem_nil _)
  nodup := List.nodup_nil
  live := fun _ => by simp [Client.init, Mem.empty]
  strong := fun _ => rfl
  pos := fun _ _ ha => by cases ha
  fresh := fun _ _ => ⟨rfl, rfl⟩
  next_pos := Nat.one_pos
  given := List.Perm.refl _

theorem Client.Owns.released {c : Client} {chains : List Owned} (h : c.Owns N chains)
    (hf : c.files = []) (hw : c.wrappers = []) :
    (∀ p, c.world.ext.boxes p = none) ∧ (∀ t, c.world.ext.tables t = none) ∧
      c.world.ext.dropped.Perm c.given := by
  have hc : chains = [] := List.map_eq_nil_iff.mp (h.files.trans hf)
  subst hc
  refine ⟨fun p => ?_, fun t => ?_, by simpa using h.given⟩
  · have hp := h.live p
    simp only [boxesOf_nil, List.map_nil, List.not_mem_nil, iff_false] at hp
    exact Option.not_isSome_iff_eq_none.mp hp
  · cases ht : c.world.ext.tables t with
    | none => rfl
    | some a =>
      have hs := h.strong t
      rw [hw] at hs
      simp only [Mem.strongOf, ht, Option.map_some', Option.getD_some, List.map_nil, List.count_nil,
        boxesOf_nil] at hs
      have := h.pos t a ht
      omega

theorem Client.calls_owns (e : Error) (calls : List Call) :
    ∃ c chains, (Client.init e).calls N leaves calls = .ok c ∧ c.Owns N chains :=
  (Client.init_owns e).calls_ok calls

theorem Client.calls_boxes_valid (e : Error) (calls : List Call) :
    ∃ c, (Client.init e).calls N leaves calls = .ok c ∧
      ∀ p v, c.world.ext.boxes p = some v →
        v.prfd = ⟨v.methodsRef, p, N.wrappedFileIdent⟩ ∧ (c.world.ext.tables v.methodsRef).isSome := by
  obtain ⟨c, chains, hc, h⟩ : ∃ c chains, (Client.init e).calls N leaves calls = .ok c ∧
      c.Owns N chains := (Client.init_owns e).calls_ok calls
  exact ⟨c, hc, fun _ _ hv => h.box_valid hv⟩

theorem Client.calls_release (e : Error) (calls : List Call) :
    ∃ c, (Client.init e).calls N leaves calls = .ok c ∧
      (c.files = [] → c.wrappers = [] →
        (∀ p, c.world.ext.boxes p = none) ∧ (∀ t, c.world.ext.tables t = none) ∧
          c.world.ext.dropped.Perm c.given) := by
  obtain ⟨c, chains, hc, h⟩ : ∃ c chains, (Client.init e).calls N leaves calls = .ok c ∧
      c.Owns N chains := (Client.init_owns e).calls_ok calls
  exact ⟨c, hc, h.released⟩

end Heap

end NssLayering
