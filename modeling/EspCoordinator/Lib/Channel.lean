import EspCoordinator.Lib.Incremental

-- A byte stream between two parties that carries whole frames only
namespace EspCoordinator.Scanner

variable {β ι α : Type*} {S : Scanner β ι}

theorem cut_nil_items : (S.cut []).1 = [] := by
  cases hs : S.scan [] with
  | wait tail => rw [cut_wait hs]
  | item it rest => exact absurd (S.shrinks hs) (Nat.not_lt_zero _)

-- The items of a stream and what is left of it have room in what has arrived.
theorem sum_size_feed (size : ι → Nat)
    (hwait : ∀ {input tail}, S.scan input = .wait tail → tail.length ≤ input.length)
    (hitem : ∀ {input it rest}, S.scan input = .item it rest →
      size it + rest.length ≤ input.length) (received : Nat) (unread : List β)
    (chunks : List (List β)) :
    ((S.feed received unread chunks).1.map fun found => size found.1).sum +
        (S.feed received unread chunks).2.length ≤ unread.length + chunks.flatten.length := by
  induction chunks generalizing received unread with
  | nil => simp [feed]
  | cons chunk rest ih =>
      have hcut := S.sum_size_cut size hwait hitem (unread ++ chunk)
      have hrest := ih (received + chunk.length) (S.cut (unread ++ chunk)).2
      rw [← map_fst_cutAt (received + chunk.length), List.map_map, List.length_append] at hcut
      simp only [feed, List.map_append, List.sum_append, List.flatten_cons, List.length_append,
        cutAt_snd, Function.comp_def] at hcut hrest ⊢
      omega

-- The bytes are cut into the items, and then whatever follows them is cut.
def Encodes (S : Scanner β ι) (bytes : List β) (items : List ι) : Prop :=
  ∀ more, (S.cut (bytes ++ more)).1 = items ++ (S.cut more).1

theorem encodes_nil : S.Encodes [] [] := fun _ => rfl

theorem Encodes.append {first second : List β} {items others : List ι}
    (hfirst : S.Encodes first items) (hsecond : S.Encodes second others) :
    S.Encodes (first ++ second) (items ++ others) := by
  intro more
  rw [List.append_assoc, hfirst, hsecond, List.append_assoc]

-- What the receiver has not cut yet and what is in flight behind it.
structure Carries (S : Scanner β ι) (unread inFlight : List β) (items : List ι) : Prop where
  idle : (S.cut unread).1 = []
  encodes : S.Encodes (unread ++ inFlight) items

theorem carries_nil : S.Carries [] [] [] := ⟨cut_nil_items, encodes_nil⟩

variable {unread inFlight : List β} {items : List ι}

theorem Carries.write (h : S.Carries unread inFlight items) {bytes : List β} {more : List ι}
    (hbytes : S.Encodes bytes more) : S.Carries unread (inFlight ++ bytes) (items ++ more) := by
  refine ⟨h.idle, ?_⟩
  rw [← List.append_assoc]
  exact h.encodes.append hbytes

-- Nothing is in flight: nothing is left to be cut either.
theorem Carries.eq_nil (h : S.Carries unread [] items) : items = [] := by
  have hcut := h.encodes []
  rw [List.append_nil, List.append_nil, h.idle, cut_nil_items, List.append_nil] at hcut
  exact hcut.symm

namespace Incremental

variable (hS : S.Incremental)

include hS

theorem encodes_item {frame : List β} {it : ι} (h : S.scan frame = .item it []) :
    S.Encodes frame [it] := by
  intro more
  rw [cut_item (hS.item h more)]
  rfl

-- The receiver takes some of the bytes and cuts the first items from them.
theorem carries_receive (h : S.Carries unread inFlight items) (count : Nat) :
    ∃ rest, items = (S.cut (unread ++ inFlight.take count)).1 ++ rest ∧
      S.Carries (S.cut (unread ++ inFlight.take count)).2 (inFlight.drop count) rest := by
  let input := unread ++ inFlight.take count
  have hwhole : unread ++ inFlight = input ++ inFlight.drop count := by
    rw [List.append_assoc, List.take_append_drop]
  have hcut (more : List β) : items ++ (S.cut more).1 =
      (S.cut input).1 ++ (S.cut ((S.cut input).2 ++ (inFlight.drop count ++ more))).1 := by
    have happ := congrArg (List.map Prod.fst)
      (hS.cutAt_append input (inFlight.drop count ++ more) 0)
    rw [List.map_append, map_fst_cutAt, map_fst_cutAt, map_fst_cutAt, cutAt_snd] at happ
    rw [← h.encodes more, hwhole, List.append_assoc]
    exact happ
  obtain ⟨rest, hrest⟩ : (S.cut input).1 <+: items := by
    have hnil := hcut []
    rw [cut_nil_items, List.append_nil] at hnil
    exact ⟨_, hnil.symm⟩
  refine ⟨rest, hrest.symm, hS.cut_tail input, fun more => ?_⟩
  have hmore := hcut more
  rw [← hrest, List.append_assoc, List.append_cancel_left_eq] at hmore
  rw [List.append_assoc]
  exact hmore.symm

end Incremental

-- The messages among the items, in order. Every other item is an idle one.
inductive Among (idle : ι → Prop) (means : α → ι → Prop) : List α → List ι → Prop
  | nil : Among idle means [] []
  | idle {it : ι} {messages : List α} {items : List ι} :
      idle it → Among idle means messages items → Among idle means messages (it :: items)
  | means {message : α} {it : ι} {messages : List α} {items : List ι} :
      means message it → Among idle means messages items →
        Among idle means (message :: messages) (it :: items)

namespace Among

variable {idle : ι → Prop} {means : α → ι → Prop} {messages : List α} {items others : List ι}

theorem append {more : List α} (h : Among idle means messages items)
    (hmore : Among idle means more others) :
    Among idle means (messages ++ more) (items ++ others) := by
  induction h with
  | nil => exact hmore
  | idle hit _ ih => exact .idle hit ih
  | means hit _ ih => exact .means hit ih

theorem split (h : Among idle means messages (items ++ others)) :
    ∃ before after, messages = before ++ after ∧ Among idle means before items ∧
      Among idle means after others := by
  induction items generalizing messages with
  | nil => exact ⟨[], messages, rfl, .nil, h⟩
  | cons it items ih =>
      cases h with
      | idle hit hrest =>
          obtain ⟨before, after, rfl, hbefore, hafter⟩ := ih hrest
          exact ⟨before, after, rfl, .idle hit hbefore, hafter⟩
      | means hit hrest =>
          obtain ⟨before, after, rfl, hbefore, hafter⟩ := ih hrest
          exact ⟨_ :: before, after, rfl, .means hit hbefore, hafter⟩

theorem eq_nil (h : Among idle means messages []) : messages = [] := by
  cases h
  rfl

end Among

end EspCoordinator.Scanner
