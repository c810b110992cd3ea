import Mathlib.Data.List.Induction
import Mathlib.Order.Lattice

namespace Foundation

/-- Items that follow each other without a break, the latest first. -/
structure Chain (Item : Type) where
  last : Item
  earlier : List Item

namespace Chain
variable {Item Other : Type}

def items (chain : Chain Item) : List Item := chain.last :: chain.earlier

def first (chain : Chain Item) : Item := chain.items.getLast (List.cons_ne_nil _ _)

def push (chain : Chain Item) (item : Item) : Chain Item := ⟨item, chain.items⟩

def map (f : Item → Other) (chain : Chain Item) : Chain Other := ⟨f chain.last, chain.earlier.map f⟩

theorem first_mem (chain : Chain Item) : chain.first ∈ chain.items := List.getLast_mem _

@[simp] theorem first_push (chain : Chain Item) (item : Item) : (chain.push item).first = chain.first :=
  List.getLast_cons _

@[simp] theorem first_single (item : Item) : (⟨item, []⟩ : Chain Item).first = item := rfl

theorem first_map (f : Item → Other) (chain : Chain Item) : (chain.map f).first = f chain.first := by
  unfold first
  exact List.getLast_map (f := f) (l := chain.items) _

end Chain

section
variable {Item Other : Type}

/-- An item joins the latest chain when that chain's last item is linked to it, and begins one otherwise. -/
def chainOn (linked : Item → Item → Bool) (chains : List (Chain Item)) (item : Item) : List (Chain Item) :=
  match chains with
  | [] => [⟨item, []⟩]
  | current :: closed =>
    if linked current.last item then current.push item :: closed else ⟨item, []⟩ :: current :: closed

/-- The chains that a list falls into, the latest first. -/
def chains (linked : Item → Item → Bool) (items : List Item) : List (Chain Item) :=
  items.foldl (chainOn linked) []

variable {linked : Item → Item → Bool}

theorem chains_snoc (items : List Item) (item : Item) :
    chains linked (items ++ [item]) = chainOn linked (chains linked items) item := by
  unfold chains
  rw [List.foldl_append, List.foldl_cons, List.foldl_nil]

theorem chains_map (f : Item → Other) (linked' : Other → Other → Bool)
    (same : ∀ a b, linked' (f a) (f b) = linked a b) (items : List Item) :
    chains linked' (items.map f) = (chains linked items).map (Chain.map f) := by
  induction items using List.reverseRecOn with
  | nil => rfl
  | append_singleton items item ih =>
    rw [List.map_append, List.map_singleton, chains_snoc, chains_snoc, ih]
    cases chains linked items with
    | nil => rfl
    | cons current closed =>
      simp only [chainOn, List.map_cons]
      rw [show (current.map f).last = f current.last from rfl, same]
      split <;> rfl

theorem chains_items (items : List Item) : (chains linked items).flatMap Chain.items = items.reverse := by
  induction items using List.reverseRecOn with
  | nil => rfl
  | append_singleton items item ih =>
    rw [chains_snoc, List.reverse_append, List.reverse_singleton, List.singleton_append, ← ih]
    cases chains linked items with
    | nil => rfl
    | cons current closed =>
      unfold chainOn
      dsimp only
      split <;> rfl

theorem mem_chains {items : List Item} {item : Item} :
    (∃ chain ∈ chains linked items, item ∈ chain.items) ↔ item ∈ items := by
  rw [← List.mem_flatMap, chains_items, List.mem_reverse]

end

section
variable {Item Place : Type} [LinearOrder Place] {lo hi : Item → Place}

/-- A chain of stretches that leave no gap: its stretches lie within its ends and fill what is between. -/
structure Chain.Filled (lo hi : Item → Place) (chain : Chain Item) : Prop where
  within : ∀ item ∈ chain.items, lo chain.first ≤ lo item ∧ hi item ≤ hi chain.last
  filled : ∀ place, lo chain.first ≤ place → place ≤ hi chain.last →
    ∃ item ∈ chain.items, lo item ≤ place ∧ place ≤ hi item

/-- A stretch is linked to one that begins no later than it ends. -/
def reaches (lo hi : Item → Place) (earlier later : Item) : Bool := decide (lo later ≤ hi earlier)

/-- Stretches in order of where they begin and where they end. -/
def Ordered (lo hi : Item → Place) (items : List Item) : Prop :=
  items.Pairwise fun earlier later => lo earlier ≤ lo later ∧ hi earlier ≤ hi later

theorem Chain.Filled.single (item : Item) : (⟨item, []⟩ : Chain Item).Filled lo hi where
  within other member := by
    obtain rfl : other = item := List.mem_singleton.mp member
    exact ⟨le_rfl, le_rfl⟩
  filled _ above below := ⟨item, List.mem_singleton.mpr rfl, above, below⟩

theorem Chain.Filled.push {chain : Chain Item} {item : Item} (before : chain.Filled lo hi)
    (begins : lo chain.first ≤ lo item) (ends : hi chain.last ≤ hi item)
    (linked : lo item ≤ hi chain.last) : (chain.push item).Filled lo hi := by
  refine ⟨fun other member => ?_, fun place above below => ?_⟩
  · rw [Chain.first_push]
    rcases List.mem_cons.mp member with rfl | member
    · exact ⟨begins, le_rfl⟩
    · exact ⟨(before.within other member).1, (before.within other member).2.trans ends⟩
  · rw [Chain.first_push] at above
    rcases le_or_gt (lo item) place with past | short
    · exact ⟨item, List.mem_cons_self, past, below⟩
    · obtain ⟨other, member, inside⟩ := before.filled place above (short.le.trans linked)
      exact ⟨other, List.mem_cons_of_mem item member, inside⟩

/-- Chains of stretches in order fill what lies between their ends and leave gaps between them. -/
theorem chains_spec {items : List Item} (ordered : Ordered lo hi items) :
    (∀ chain ∈ chains (reaches lo hi) items, chain.Filled lo hi) ∧
      (chains (reaches lo hi) items).Pairwise fun later earlier => hi earlier.last < lo later.first := by
  induction items using List.reverseRecOn with
  | nil => exact ⟨fun _ member => (by cases member), List.Pairwise.nil⟩
  | append_singleton items item ih =>
    obtain ⟨first, _, across⟩ := List.pairwise_append.mp ordered
    obtain ⟨filled, apart⟩ := ih first
    have since : ∀ other ∈ items, lo other ≤ lo item ∧ hi other ≤ hi item :=
      fun other member => across other member item (List.mem_singleton.mpr rfl)
    have inside : ∀ chain ∈ chains (reaches lo hi) items, ∀ other ∈ chain.items, other ∈ items :=
      fun chain listed other member => mem_chains.mp ⟨chain, listed, member⟩
    rw [chains_snoc]
    cases found : chains (reaches lo hi) items with
    | nil =>
      refine ⟨fun chain member => ?_, List.pairwise_singleton _ _⟩
      obtain rfl : chain = ⟨item, []⟩ := List.mem_singleton.mp member
      exact .single item
    | cons current closed =>
      rw [found] at filled apart inside
      obtain ⟨nearest, others⟩ := List.pairwise_cons.mp apart
      have begins := since _ (inside current List.mem_cons_self _ current.first_mem)
      have ends := since _ (inside current List.mem_cons_self _ List.mem_cons_self)
      unfold chainOn
      dsimp only
      cases link : reaches lo hi current.last item with
      | true =>
        rw [if_pos rfl]
        refine ⟨?_, List.pairwise_cons.mpr ⟨fun earlier member => ?_, others⟩⟩
        · intro chain member
          rcases List.mem_cons.mp member with rfl | member
          · exact (filled current List.mem_cons_self).push begins.1 ends.2 (of_decide_eq_true link)
          · exact filled chain (List.mem_cons_of_mem _ member)
        · rw [Chain.first_push]
          exact nearest earlier member
      | false =>
        have gap : hi current.last < lo item := not_le.mp (of_decide_eq_false link)
        rw [if_neg (by decide)]
        refine ⟨?_, List.pairwise_cons.mpr ⟨fun earlier member => ?_, apart⟩⟩
        · intro chain member
          rcases List.mem_cons.mp member with rfl | member
          · exact .single item
          · exact filled chain member
        · rcases List.mem_cons.mp member with rfl | member
          · exact gap
          · exact (nearest earlier member).trans_le begins.1

end

end Foundation
