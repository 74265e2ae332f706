import Mathlib.Data.List.Chain
import Mathlib.Data.List.Nodup
import Mathlib.Logic.Function.Basic

/-!
Owns circular doubly linked lists with a sentinel node: the two pointers of every
node, the insertion in front of a node, the removal of a node, and which list
stands in a ring. The rules say what the two operations make of a ring and that
they leave every other ring alone; `Rings` packs them for two rings that exchange
their nodes.
-/

namespace RildHisi.Library

variable {α : Type*}

/-- The two pointers of every node. -/
structure Links (α : Type*) where
  next : α → α
  prev : α → α

namespace Links

/-- Each node of the list points to the one behind it, and that one back. -/
def Linked (links : Links α) : List α → Prop :=
  List.IsChain fun a b => links.next a = b ∧ links.prev b = a

/-- From the sentinel on and back to it, these are the nodes. -/
structure Ring (links : Links α) (sentinel : α) (list : List α) : Prop where
  distinct : (sentinel :: list).Nodup
  linked : links.Linked (sentinel :: list ++ [sentinel])

variable {links links' : Links α} {sentinel node place : α} {list front back : List α}

/-- Only the pointers between the nodes matter. -/
theorem Linked.frame (linked : links.Linked list)
    (next : ∀ a ∈ list.dropLast, links'.next a = links.next a)
    (prev : ∀ b ∈ list.tail, links'.prev b = links.prev b) : links'.Linked list := by
  induction list with
  | nil => exact .nil
  | cons a list inductionHypothesis =>
      cases list with
      | nil => exact .singleton a
      | cons b rest =>
          obtain ⟨pair, behind⟩ := List.isChain_cons_cons.mp linked
          refine List.isChain_cons_cons.mpr ⟨⟨?_, ?_⟩, inductionHypothesis behind ?_ ?_⟩
          · rw [next a (by simp)]
            exact pair.1
          · rw [prev b (by simp)]
            exact pair.2
          · intro c member
            exact next c (by simp [member])
          · intro c member
            exact prev c (List.mem_of_mem_tail member)

/-- A ring whose nodes keep their pointers. -/
theorem Ring.frame (ring : links.Ring sentinel list)
    (next : ∀ a ∈ sentinel :: list, links'.next a = links.next a)
    (prev : ∀ a ∈ sentinel :: list, links'.prev a = links.prev a) :
    links'.Ring sentinel list := by
  refine ⟨ring.distinct, ring.linked.frame ?_ ?_⟩
  · intro a member
    rw [List.dropLast_concat] at member
    exact next a member
  · intro b member
    exact prev b (by simpa [or_comm] using member)

/-- A sentinel that points to itself. -/
theorem ring_nil (next : links.next sentinel = sentinel) (prev : links.prev sentinel = sentinel) :
    links.Ring sentinel [] :=
  ⟨List.nodup_singleton sentinel, List.isChain_pair.mpr ⟨next, prev⟩⟩

theorem linked_split {a b : α} : links.Linked (front ++ a :: b :: back) ↔
    links.Linked (front ++ [a]) ∧ (links.next a = b ∧ links.prev b = a) ∧
      links.Linked (b :: back) :=
  List.isChain_append_cons_cons

/-- A ring cut between `last` and `head`: `before ++ [last]` is the sentinel and the
front of the list, `head :: behind` is the back of it and the sentinel. -/
structure Cut (sentinel : α) (front back before behind : List α) (last head : α) : Prop where
  first : sentinel :: front = before ++ [last]
  second : back ++ [sentinel] = head :: behind

theorem exists_cut (sentinel : α) (front back : List α) :
    ∃ before last behind, Cut sentinel front back before behind last (back.headD sentinel) := by
  have first := (List.dropLast_concat_getLast (List.cons_ne_nil sentinel front)).symm
  cases back with
  | nil => exact ⟨_, _, [], first, rfl⟩
  | cons head rest => exact ⟨_, _, rest ++ [sentinel], first, rfl⟩

namespace Cut

variable {before behind : List α} {last head : α}

theorem ring_iff (cut : Cut sentinel front back before behind last head) (middle : List α) :
    sentinel :: (front ++ middle ++ back) ++ [sentinel] =
      before ++ [last] ++ middle ++ head :: behind := by
  rw [← cut.second, ← cut.first]
  simp

theorem last_mem (cut : Cut sentinel front back before behind last head) :
    last ∈ sentinel :: (front ++ back) := by
  have member : last ∈ sentinel :: front := by
    rw [cut.first]
    simp
  rcases List.mem_cons.mp member with rfl | inFront <;> simp [*]

theorem head_mem (cut : Cut sentinel front back before behind last head) :
    head ∈ sentinel :: (front ++ back) := by
  have member : head ∈ back ++ [sentinel] := by
    rw [cut.second]
    simp
  rcases List.mem_append.mp member with inBack | only
  · simp [inBack]
  · simp [List.mem_singleton.mp only]

/-- Pointers that change only at the cut. -/
theorem frame (cut : Cut sentinel front back before behind last head) (links' : Links α)
    (distinct : (sentinel :: (front ++ back)).Nodup)
    (next : ∀ a ∈ sentinel :: (front ++ back), a ≠ last → links'.next a = links.next a)
    (prev : ∀ a ∈ sentinel :: (front ++ back), a ≠ head → links'.prev a = links.prev a)
    (first : links.Linked (before ++ [last])) (second : links.Linked (head :: behind)) :
    links'.Linked (before ++ [last]) ∧ links'.Linked (head :: behind) := by
  have lastFront : last ∈ sentinel :: front := by rw [cut.first]; simp
  have headBack : head ∈ back ++ [sentinel] := by rw [cut.second]; simp
  rw [List.nodup_cons, List.nodup_append] at distinct
  obtain ⟨outside, frontNodup, backNodup, apart⟩ := distinct
  have firstNodup : (before ++ [last]).Nodup := by
    rw [← cut.first]
    exact List.nodup_cons.mpr ⟨fun member => outside (List.mem_append_left _ member), frontNodup⟩
  have secondNodup : (head :: behind).Nodup := by
    rw [← cut.second]
    refine List.nodup_append.mpr ⟨backNodup, List.nodup_singleton _, ?_⟩
    rintro a member b only rfl
    rw [List.mem_singleton.mp only] at member
    exact outside (List.mem_append_right _ member)
  constructor
  · apply first.frame
    · intro a member
      rw [List.dropLast_concat] at member
      have inside : a ∈ sentinel :: front := by rw [cut.first]; simp [member]
      refine next a ?_ ?_
      · rcases List.mem_cons.mp inside with rfl | inFront <;> simp [*]
      · rintro rfl
        exact (List.nodup_append.mp firstNodup).2.2 a member a (by simp) rfl
    · intro b member
      rw [← cut.first, List.tail_cons] at member
      apply prev b (by simp [member])
      rintro rfl
      rcases List.mem_append.mp headBack with inBack | only
      · exact apart b member b inBack rfl
      · rw [List.mem_singleton.mp only] at member
        exact outside (List.mem_append_left _ member)
  · apply second.frame
    · intro a member
      rw [← cut.second, List.dropLast_concat] at member
      apply next a (by simp [member])
      rintro rfl
      rcases List.mem_cons.mp lastFront with rfl | inFront
      · exact outside (List.mem_append_right _ member)
      · exact apart a inFront a member rfl
    · intro b member
      rw [List.tail_cons] at member
      have inside : b ∈ back ++ [sentinel] := by rw [cut.second]; simp [member]
      refine prev b ?_ ?_
      · rcases List.mem_append.mp inside with inBack | only
        · simp [inBack]
        · simp [List.mem_singleton.mp only]
      · rintro rfl
        exact (List.nodup_cons.mp secondNodup).1 member

/-- The two neighbours. -/
theorem neighbours (cut : Cut sentinel front back before behind last head)
    (ring : links.Ring sentinel (front ++ back)) :
    links.Linked (before ++ [last]) ∧ (links.next last = head ∧ links.prev head = last) ∧
      links.Linked (head :: behind) := by
  have linked := ring.linked
  have shape := cut.ring_iff []
  rw [List.append_nil, List.append_nil, List.append_assoc, List.singleton_append] at shape
  rw [shape, linked_split] at linked
  exact linked

end Cut

/-- The first node. -/
theorem Ring.next_sentinel (ring : links.Ring sentinel list) :
    links.next sentinel = list.headD sentinel := by
  have linked := ring.linked
  cases list with
  | nil => exact (List.isChain_pair.mp linked).1
  | cons node rest => exact (List.isChain_cons_cons.mp linked).1.1

/-- The node behind another one. -/
theorem Ring.next_node (ring : links.Ring sentinel (front ++ node :: back)) :
    links.next node = back.headD sentinel := by
  have linked := ring.linked
  rw [List.cons_append, List.append_assoc, List.cons_append, ← List.cons_append] at linked
  cases back with
  | nil => exact (linked_split.mp linked).2.1.1
  | cons head rest => exact (linked_split.mp linked).2.1.1

/-- The neighbours of a node that is to be removed. -/
theorem Cut.around {before behind : List α} {last head : α}
    (cut : Cut sentinel front back before behind last head)
    (ring : links.Ring sentinel (front ++ node :: back)) :
    node ∉ sentinel :: (front ++ back) ∧ (sentinel :: (front ++ back)).Nodup ∧
      links.Linked (before ++ [last]) ∧ links.next node = head ∧ links.prev node = last ∧
      links.Linked (head :: behind) := by
  have perm : (sentinel :: (front ++ node :: back)).Perm (node :: sentinel :: (front ++ back)) :=
    (List.perm_middle.cons sentinel).trans (List.Perm.swap node sentinel _)
  obtain ⟨fresh, distinct⟩ := List.nodup_cons.mp (perm.nodup_iff.mp ring.distinct)
  have linked := ring.linked
  have shape := cut.ring_iff [node]
  rw [List.append_assoc, List.singleton_append] at shape
  have pieces : before ++ [last] ++ [node] ++ head :: behind =
      before ++ last :: node :: head :: behind := by simp
  rw [shape, pieces, linked_split] at linked
  obtain ⟨first, ⟨-, nodePrev⟩, behindNode⟩ := linked
  obtain ⟨⟨nodeNext, -⟩, second⟩ := List.isChain_cons_cons.mp behindNode
  exact ⟨fresh, distinct, first, nodeNext, nodePrev, second⟩

/-! ### Insertion and removal -/

section Change

variable [DecidableEq α]

/-- `node` in front of `place`: its own pointers first, then those of its neighbours. -/
def insertBefore (links : Links α) (node place : α) : Links α :=
  let next := Function.update links.next node place
  let prev := Function.update links.prev node (links.prev place)
  let next := Function.update next (prev node) node
  let prev := Function.update prev place node
  ⟨next, prev⟩

/-- The neighbours of `node` point to each other, and its own pointers become `null`. -/
def remove (links : Links α) (null node : α) : Links α :=
  let prev := Function.update links.prev (links.next node) (links.prev node)
  let next := Function.update links.next (prev node) (links.next node)
  ⟨Function.update next node null, Function.update prev node null⟩

theorem insertBefore_next_of_ne {a : α} (own : a ≠ node) (neighbour : a ≠ links.prev place) :
    (links.insertBefore node place).next a = links.next a := by
  simp [insertBefore, own, neighbour]

theorem insertBefore_prev_of_ne {a : α} (own : a ≠ node) (neighbour : a ≠ place) :
    (links.insertBefore node place).prev a = links.prev a := by
  simp [insertBefore, own, neighbour]

/-- **Insertion.** -/
theorem Ring.insertBefore (ring : links.Ring sentinel (front ++ back))
    (fresh : node ∉ sentinel :: (front ++ back)) :
    (links.insertBefore node (back.headD sentinel)).Ring sentinel (front ++ node :: back) := by
  obtain ⟨before, last, behind, cut⟩ := exists_cut sentinel front back
  generalize back.headD sentinel = head at *
  obtain ⟨first, ⟨toHead, toLast⟩, second⟩ := cut.neighbours ring
  have others : ∀ a ∈ sentinel :: (front ++ back), a ≠ node :=
    fun a inside same => fresh (same ▸ inside)
  have nodeLast : node ≠ last := (others last cut.last_mem).symm
  have nodeHead : node ≠ head := (others head cut.head_mem).symm
  have next (a : α) : (links.insertBefore node head).next a =
      if a = last then node else if a = node then head else links.next a := by
    have own : Function.update links.prev node (links.prev head) node = last := by
      rw [Function.update_self, toLast]
    simp only [Links.insertBefore, own, Function.update_apply]
  have prev (a : α) : (links.insertBefore node head).prev a =
      if a = head then node else if a = node then last else links.prev a := by
    simp only [Links.insertBefore, toLast, Function.update_apply]
  constructor
  · have perm : (sentinel :: (front ++ node :: back)).Perm (node :: sentinel :: (front ++ back)) :=
      (List.perm_middle.cons sentinel).trans (List.Perm.swap node sentinel _)
    exact perm.nodup_iff.mpr (List.nodup_cons.mpr ⟨fresh, ring.distinct⟩)
  · have shape := cut.ring_iff [node]
    rw [List.append_assoc, List.singleton_append] at shape
    have pieces : before ++ [last] ++ [node] ++ head :: behind =
        before ++ last :: node :: head :: behind := by simp
    rw [shape, pieces]
    obtain ⟨left, right⟩ := cut.frame (links.insertBefore node head) ring.distinct
      (fun a inside apart => by
        rw [next, if_neg apart, if_neg (others a inside)])
      (fun a inside apart => by
        rw [prev, if_neg apart, if_neg (others a inside)]) first second
    refine linked_split.mpr ⟨left, ⟨?_, ?_⟩, List.isChain_cons_cons.mpr ⟨⟨?_, ?_⟩, right⟩⟩
    · rw [next, if_pos rfl]
    · rw [prev, if_neg nodeHead, if_pos rfl]
    · rw [next, if_neg nodeLast, if_pos rfl]
    · rw [prev, if_pos rfl]

/-- An insertion into another ring. -/
theorem Ring.insertBefore_apart {sentinel' : α} {list' : List α}
    (other : links.Ring sentinel' list') (ring : links.Ring sentinel (front ++ back))
    (fresh : node ∉ sentinel' :: list')
    (apart : ∀ a ∈ sentinel' :: list', a ∉ sentinel :: (front ++ back)) :
    (links.insertBefore node (back.headD sentinel)).Ring sentinel' list' := by
  obtain ⟨before, last, behind, cut⟩ := exists_cut sentinel front back
  have headMem := cut.head_mem
  generalize back.headD sentinel = head at *
  obtain ⟨-, ⟨-, toLast⟩, -⟩ := cut.neighbours ring
  apply other.frame
  · intro a member
    apply insertBefore_next_of_ne
    · exact fun same => fresh (same ▸ member)
    · rw [toLast]
      exact fun same => apart a member (same ▸ cut.last_mem)
  · intro a member
    apply insertBefore_prev_of_ne
    · exact fun same => fresh (same ▸ member)
    · exact fun same => apart a member (same ▸ headMem)

/-- Nodes outside the ring. -/
theorem Ring.insertBefore_outside (ring : links.Ring sentinel (front ++ back)) {a : α}
    (own : a ≠ node) (outside : a ∉ sentinel :: (front ++ back)) :
    (links.insertBefore node (back.headD sentinel)).next a = links.next a := by
  obtain ⟨before, last, behind, cut⟩ := exists_cut sentinel front back
  obtain ⟨-, ⟨-, toLast⟩, -⟩ := cut.neighbours ring
  apply insertBefore_next_of_ne own
  rw [toLast]
  exact fun same => outside (same ▸ cut.last_mem)

theorem remove_next (null : α) {last head : α} (toHead : links.next node = head)
    (toLast : links.prev node = last) (apart : head ≠ node) (a : α) :
    (links.remove null node).next a =
      if a = node then null else if a = last then head else links.next a := by
  have own : Function.update links.prev head last node = last := by
    rw [Function.update_of_ne apart.symm, toLast]
  simp only [Links.remove, toHead, toLast, own, Function.update_apply]

theorem remove_prev (null : α) {last head : α} (toHead : links.next node = head)
    (toLast : links.prev node = last) (a : α) :
    (links.remove null node).prev a =
      if a = node then null else if a = head then last else links.prev a := by
  simp only [Links.remove, toHead, toLast, Function.update_apply]

/-- **Removal.** -/
theorem Ring.remove (ring : links.Ring sentinel (front ++ node :: back)) (null : α) :
    (links.remove null node).Ring sentinel (front ++ back) ∧
      (links.remove null node).next node = null := by
  obtain ⟨before, last, behind, cut⟩ := exists_cut sentinel front back
  generalize back.headD sentinel = head at *
  obtain ⟨fresh, distinct, first, toHead, toLast, second⟩ := cut.around ring
  have others : ∀ a ∈ sentinel :: (front ++ back), a ≠ node :=
    fun a inside same => fresh (same ▸ inside)
  have nodeLast : last ≠ node := others last cut.last_mem
  have nodeHead : head ≠ node := others head cut.head_mem
  have next := remove_next null toHead toLast nodeHead
  have prev := remove_prev null toHead toLast
  refine ⟨⟨distinct, ?_⟩, by rw [next, if_pos rfl]⟩
  have shape := cut.ring_iff []
  rw [List.append_nil, List.append_nil, List.append_assoc, List.singleton_append] at shape
  rw [shape]
  obtain ⟨left, right⟩ := cut.frame (links.remove null node) distinct
    (fun a inside apart => by rw [next, if_neg (others a inside), if_neg apart])
    (fun a inside apart => by rw [prev, if_neg (others a inside), if_neg apart]) first second
  refine linked_split.mpr ⟨left, ⟨?_, ?_⟩, right⟩
  · rw [next, if_neg nodeLast, if_pos rfl]
  · rw [prev, if_neg nodeHead, if_pos rfl]

/-- Nodes outside the ring. -/
theorem Ring.remove_outside (ring : links.Ring sentinel (front ++ node :: back)) (null : α)
    {a : α} (outside : a ∉ sentinel :: (front ++ node :: back)) :
    (links.remove null node).next a = links.next a ∧
      (links.remove null node).prev a = links.prev a := by
  obtain ⟨before, last, behind, cut⟩ := exists_cut sentinel front back
  have headMem := cut.head_mem
  generalize back.headD sentinel = head at *
  obtain ⟨fresh, -, -, toHead, toLast, -⟩ := cut.around ring
  have inside : ∀ b ∈ sentinel :: (front ++ back), a ≠ b := by
    rintro b member rfl
    apply outside
    simp only [List.mem_cons, List.mem_append] at member ⊢
    tauto
  have own : a ≠ node := by
    rintro rfl
    exact outside (by simp)
  have nodeHead : head ≠ node := fun same => fresh (same ▸ headMem)
  constructor
  · rw [remove_next null toHead toLast nodeHead, if_neg own, if_neg (inside last cut.last_mem)]
  · rw [remove_prev null toHead toLast, if_neg own, if_neg (inside head headMem)]

/-- A removal from another ring. -/
theorem Ring.remove_apart {sentinel' : α} {list' : List α} (other : links.Ring sentinel' list')
    (ring : links.Ring sentinel (front ++ node :: back)) (null : α)
    (apart : ∀ a ∈ sentinel' :: list', a ∉ sentinel :: (front ++ node :: back)) :
    (links.remove null node).Ring sentinel' list' :=
  other.frame (fun a member => (ring.remove_outside null (apart a member)).1)
    fun a member => (ring.remove_outside null (apart a member)).2

/-- Both pointers of a node are cleared. -/
def clear (links : Links α) (null node : α) : Links α :=
  ⟨Function.update links.next node null, Function.update links.prev node null⟩

/-! ### Nodes nothing points to -/

/-- No pointer leads to the node. -/
def Unreferenced (links : Links α) (node : α) : Prop :=
  ∀ a, links.next a ≠ node ∧ links.prev a ≠ node

variable {other : α}

theorem Unreferenced.clear (unreferenced : links.Unreferenced other) {null : α}
    (null_ne : null ≠ other) (node : α) : (links.clear null node).Unreferenced other := by
  intro a
  by_cases same : a = node
  · subst same
    simp [Links.clear, null_ne]
  · simp [Links.clear, same, unreferenced a]

theorem Unreferenced.insertBefore (unreferenced : links.Unreferenced other)
    (node_ne : node ≠ other) (place_ne : place ≠ other) :
    (links.insertBefore node place).Unreferenced other := by
  intro a
  simp only [Links.insertBefore, Function.update_apply, ↓reduceIte]
  constructor
  · split_ifs
    · exact node_ne
    · exact place_ne
    · exact (unreferenced a).1
  · split_ifs
    · exact node_ne
    · exact (unreferenced place).2
    · exact (unreferenced a).2

theorem Unreferenced.remove (unreferenced : links.Unreferenced other) {null : α}
    (null_ne : null ≠ other) (node : α) : (links.remove null node).Unreferenced other := by
  intro a
  simp only [Links.remove, Function.update_apply, ite_self]
  constructor
  · split_ifs
    · exact null_ne
    · exact (unreferenced node).1
    · exact (unreferenced a).1
  · split_ifs
    · exact null_ne
    · exact (unreferenced node).2
    · exact (unreferenced a).2

end Change

/-! ### Two rings -/

/-- The pointers of a ring lead to its own nodes. -/
theorem Ring.next_mem (ring : links.Ring sentinel list) {a : α} (inside : a ∈ sentinel :: list) :
    links.next a ∈ sentinel :: list := by
  rcases List.mem_cons.mp inside with rfl | listed
  · rw [ring.next_sentinel]
    cases list <;> simp
  · obtain ⟨front, back, rfl⟩ := List.append_of_mem listed
    rw [ring.next_node]
    cases back <;> simp

/-- Each node of a linked list but the first has one in front of it. -/
theorem Linked.prev_mem (linked : links.Linked list) {a : α} (inside : a ∈ list.tail) :
    links.prev a ∈ list := by
  induction list with
  | nil => cases inside
  | cons b list inductionHypothesis =>
      cases list with
      | nil => cases inside
      | cons c rest =>
          obtain ⟨pair, behind⟩ := List.isChain_cons_cons.mp linked
          rcases List.mem_cons.mp inside with rfl | further
          · rw [pair.2]
            exact List.mem_cons_self
          · exact List.mem_cons_of_mem _ (inductionHypothesis behind further)

theorem Ring.prev_mem (ring : links.Ring sentinel list) {a : α} (inside : a ∈ sentinel :: list) :
    links.prev a ∈ sentinel :: list := by
  have behind : a ∈ (sentinel :: list ++ [sentinel]).tail := by simpa [or_comm] using inside
  have member := ring.linked.prev_mem behind
  simpa [or_comm] using member

/-- Two rings without a common node. Any other node points to `null`, which is in none. -/
structure Rings (links : Links α) (null first second : α) (list list' : List α) : Prop where
  ring : links.Ring first list
  ring' : links.Ring second list'
  apart : ∀ a ∈ first :: list, a ∉ second :: list'
  outside : ∀ a ≠ null, a ∉ first :: list → a ∉ second :: list' → links.next a = null
  notNull : null ∉ first :: list ∧ null ∉ second :: list'

section Rings

variable {null first second : α} {list' : List α}

theorem Rings.symm (rings : links.Rings null first second list list') :
    links.Rings null second first list' list where
  ring := rings.ring'
  ring' := rings.ring
  apart := fun a inside inside' => rings.apart a inside' inside
  outside := fun a a_ne out out' => rings.outside a a_ne out' out
  notNull := rings.notNull.symm

theorem Rings.next_ne_null (rings : links.Rings null first second list list') {a : α}
    (inside : a ∈ first :: list) : links.next a ≠ null :=
  fun same => rings.notNull.1 (same ▸ rings.ring.next_mem inside)

theorem Rings.prev_ne_null (rings : links.Rings null first second list list') {a : α}
    (inside : a ∈ first :: list) : links.prev a ≠ null :=
  fun same => rings.notNull.1 (same ▸ rings.ring.prev_mem inside)

theorem Rings.not_mem_of_next (rings : links.Rings null first second list list') {a : α}
    (unlisted : links.next a = null) : a ∉ first :: list ∧ a ∉ second :: list' :=
  ⟨fun inside => rings.next_ne_null inside unlisted,
    fun inside => rings.symm.next_ne_null inside unlisted⟩

variable [DecidableEq α]

/-- **Insertion** of a node that is in none. -/
theorem Rings.insertBefore (rings : links.Rings null first second (front ++ back) list')
    (fresh : node ∉ first :: (front ++ back)) (fresh' : node ∉ second :: list')
    (node_ne : node ≠ null) :
    (links.insertBefore node (back.headD first)).Rings null first second (front ++ node :: back)
      list' := by
  have grown {a : α} : a ∈ first :: (front ++ node :: back) ↔
      a = node ∨ a ∈ first :: (front ++ back) := by
    simp only [List.mem_cons, List.mem_append]
    tauto
  constructor
  case ring => exact rings.ring.insertBefore fresh
  case ring' => exact rings.ring'.insertBefore_apart rings.ring fresh' rings.symm.apart
  case apart =>
    intro a inside
    rcases grown.mp inside with rfl | old
    · exact fresh'
    · exact rings.apart a old
  case outside =>
    intro a a_ne out out'
    rw [grown, not_or] at out
    exact (rings.ring.insertBefore_outside out.1 out.2).trans (rings.outside a a_ne out.2 out')
  case notNull =>
    refine ⟨?_, rings.notNull.2⟩
    rw [grown, not_or]
    exact ⟨node_ne.symm, rings.notNull.1⟩

/-- **Removal.** -/
theorem Rings.remove (rings : links.Rings null first second (front ++ node :: back) list') :
    (links.remove null node).Rings null first second (front ++ back) list' := by
  have shrunk {a : α} : a ∈ first :: (front ++ node :: back) ↔
      a = node ∨ a ∈ first :: (front ++ back) := by
    simp only [List.mem_cons, List.mem_append]
    tauto
  constructor
  case ring => exact (rings.ring.remove null).1
  case ring' => exact rings.ring'.remove_apart rings.ring null rings.symm.apart
  case apart => exact fun a inside => rings.apart a (shrunk.mpr (Or.inr inside))
  case outside =>
    intro a a_ne out out'
    by_cases same : a = node
    · subst same
      exact (rings.ring.remove null).2
    · have out'' : a ∉ first :: (front ++ node :: back) := by
        rw [shrunk, not_or]
        exact ⟨same, out⟩
      exact (rings.ring.remove_outside null out'').1.trans (rings.outside a a_ne out'' out')
  case notNull => exact ⟨fun inside => rings.notNull.1 (shrunk.mpr (Or.inr inside)), rings.notNull.2⟩

theorem Ring.clear (ring : links.Ring sentinel list) (fresh : node ∉ sentinel :: list) :
    (links.clear null node).Ring sentinel list := by
  have apart : ∀ a ∈ sentinel :: list, a ≠ node := fun a inside same => fresh (same ▸ inside)
  apply ring.frame
  · exact fun a inside => Function.update_of_ne (apart a inside) ..
  · exact fun a inside => Function.update_of_ne (apart a inside) ..

/-- A node that is in none may be cleared. -/
theorem Rings.clear (rings : links.Rings null first second list list')
    (fresh : node ∉ first :: list) (fresh' : node ∉ second :: list') :
    (links.clear null node).Rings null first second list list' where
  ring := rings.ring.clear fresh
  ring' := rings.ring'.clear fresh'
  apart := rings.apart
  outside := by
    intro a a_ne out out'
    by_cases same : a = node
    · subst same
      exact Function.update_self ..
    · exact (Function.update_of_ne same ..).trans (rings.outside a a_ne out out')
  notNull := rings.notNull

end Rings

end Links

end RildHisi.Library
