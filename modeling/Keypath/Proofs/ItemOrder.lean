import Mathlib.Algebra.Group.Nat.Defs
import Mathlib.Data.List.Forall2
import Mathlib.Data.List.Lex
import Keypath.Suggestion
import Keypath.Text.Utf8

/-!
The order of completion items.

Items are sorted by texts, byte by byte. Numbers that were filled up to one width sort in their own
order; the first number that is wider sorts in front of the ones before it.
-/

namespace Keypath

theorem Text.bytes_append (text other : String) :
    bytes (text ++ other) = bytes text ++ bytes other := by
  simp [bytes]

theorem lex_append_of_length_eq {α : Type} {r : α → α → Prop} {items others : List α}
    (h : List.Lex r items others) (hlength : items.length = others.length) (rest more : List α) :
    List.Lex r (items ++ rest) (others ++ more) := by
  induction h with
  | nil => cases hlength
  | cons _ ih => exact .cons (ih (Nat.succ.inj hlength))
  | rel h => exact .rel h

section Padded

variable {width : Nat}

/-- One place more holds the last digit, and the places before it hold the number without it. -/
theorem zeroPadded_succ (hwidth : 0 < width) (number : Nat) :
    zeroPadded (width + 1) number =
      zeroPadded width (number / 10) ++ String.singleton (number % 10).digitChar := by
  apply String.toList_injective
  simp only [zeroPadded, String.toList_append, String.toList_ofList, String.toList_singleton]
  by_cases hsmall : number < 10
  · obtain ⟨places, rfl⟩ := Nat.exists_eq_succ_of_ne_zero hwidth.ne'
    rw [Nat.div_eq_of_lt hsmall, Nat.mod_eq_of_lt hsmall, Nat.toDigits_of_lt_base hsmall,
      Nat.toDigits_of_lt_base (by decide)]
    simp [List.replicate_succ', Nat.digitChar]
  · rw [Nat.toDigits_of_base_le (by decide) (Nat.le_of_not_lt hsmall)]
    simp

theorem bytes_digitChar {digit : Nat} (h : digit < 10) :
    Text.bytes (String.singleton digit.digitChar) = [UInt8.ofNat (48 + digit)] := by
  revert digit
  decide +kernel

theorem zeroPadded_one {digit : Nat} (h : digit < 10) :
    zeroPadded 1 digit = String.singleton digit.digitChar := by
  apply String.toList_injective
  simp [zeroPadded, Nat.toDigits_of_lt_base h]

theorem bytes_zeroPadded_succ (hwidth : 0 < width) (number : Nat) :
    Text.bytes (zeroPadded (width + 1) number) =
      Text.bytes (zeroPadded width (number / 10)) ++ [UInt8.ofNat (48 + number % 10)] := by
  rw [zeroPadded_succ hwidth, Text.bytes_append,
    bytes_digitChar (Nat.mod_lt number (by decide))]

theorem length_bytes_zeroPadded (hwidth : 0 < width) {number : Nat} (h : number < 10 ^ width) :
    (Text.bytes (zeroPadded width number)).length = width := by
  induction width, hwidth using Nat.le_induction generalizing number with
  | base => rw [zeroPadded_one h, bytes_digitChar h, List.length_singleton]
  | succ width hwidth ih =>
      rw [bytes_zeroPadded_succ hwidth, List.length_append, List.length_singleton,
        ih (Nat.div_lt_of_lt_mul (by rwa [Nat.pow_succ'] at h))]

theorem digit_lt_digit {digit other : Nat} (h : digit < other) (hother : other < 10) :
    UInt8.ofNat (48 + digit) < UInt8.ofNat (48 + other) := by
  have hsize : UInt8.size = 256 := rfl
  rw [UInt8.ofNat_lt_iff_lt] <;> omega

theorem bytes_zeroPadded_lt (hwidth : 0 < width) {number other : Nat} (h : number < other)
    (hother : other < 10 ^ width) :
    Text.bytes (zeroPadded width number) < Text.bytes (zeroPadded width other) := by
  induction width, hwidth using Nat.le_induction generalizing number other with
  | base =>
      rw [zeroPadded_one (h.trans hother), zeroPadded_one hother, bytes_digitChar (h.trans hother),
        bytes_digitChar hother]
      exact .rel (digit_lt_digit h hother)
  | succ width hwidth ih =>
      have hleading : other / 10 < 10 ^ width :=
        Nat.div_lt_of_lt_mul (by rwa [Nat.pow_succ'] at hother)
      rw [bytes_zeroPadded_succ hwidth, bytes_zeroPadded_succ hwidth]
      rcases (Nat.div_le_div_right (c := 10) h.le).lt_or_eq with hless | hsame
      · refine lex_append_of_length_eq (ih hless hleading) ?_ _ _
        rw [length_bytes_zeroPadded hwidth (hless.trans hleading),
          length_bytes_zeroPadded hwidth hleading]
      · rw [hsame]
        exact .append_left _ (.rel (digit_lt_digit (by omega) (Nat.mod_lt _ (by decide)))) _

end Padded

structure CompletionItem.Shows (item : CompletionItem) (suggestion : Suggestion) : Prop where
  label_eq : item.label = suggestion.path
  detail_eq : item.detail = suggestion.detail
  kind_eq : item.kind = if suggestion.isLeaf then .field else .container

def CompletionItem.SortsBefore (item later : CompletionItem) : Prop :=
  Text.bytes item.sortText < Text.bytes later.sortText

section Items

variable {suggestions : List Suggestion} {limit : Nat}

theorem length_completionItems (suggestions : List Suggestion) (limit : Nat) :
    (completionItems suggestions limit).length = min suggestions.length limit := by
  simp [completionItems, Nat.min_comm]

theorem sortText_getElem {place : Nat} (h : place < (completionItems suggestions limit).length) :
    (completionItems suggestions limit)[place].sortText = zeroPadded 5 place := by
  simp [completionItems, Suggestion.item]

theorem forall₂_shows (suggestions : List Suggestion) (limit : Nat) :
    List.Forall₂ (fun suggestion item => CompletionItem.Shows item suggestion)
      (suggestions.take limit) (completionItems suggestions limit) := by
  rw [List.forall₂_iff_get]
  refine ⟨by simp [length_completionItems, Nat.min_comm], fun place h h' => ?_⟩
  simp only [completionItems, List.get_eq_getElem, List.getElem_mapIdx]
  exact ⟨rfl, rfl, rfl⟩

/-- The item in place 100000 sorts in front of the one before it. -/
theorem not_pairwise_sortsBefore (h : 100000 < min suggestions.length limit) :
    ¬(completionItems suggestions limit).Pairwise CompletionItem.SortsBefore := by
  rw [← length_completionItems] at h
  intro hsorted
  have hlast := List.pairwise_iff_getElem.1 hsorted 99999 100000 (by omega) h (by decide)
  rw [CompletionItem.SortsBefore, sortText_getElem, sortText_getElem] at hlast
  exact absurd hlast (by decide +kernel)

theorem pairwise_sortsBefore (h : min suggestions.length limit ≤ 100000) :
    (completionItems suggestions limit).Pairwise CompletionItem.SortsBefore := by
  rw [List.pairwise_iff_getElem]
  intro place later hplace hlater hbefore
  rw [CompletionItem.SortsBefore, sortText_getElem, sortText_getElem]
  rw [length_completionItems] at hlater
  exact bytes_zeroPadded_lt (by decide) hbefore (hlater.trans_le h)

end Items

/-- There is one item for each of the first suggestions, in their order, and the items sort in this
order as long as there are no more than 100000. -/
theorem completionItems_sorted_iff (suggestions : List Suggestion) (limit : Nat) :
    List.Forall₂ (fun suggestion item => CompletionItem.Shows item suggestion)
      (suggestions.take limit) (completionItems suggestions limit) ∧
    ((completionItems suggestions limit).Pairwise CompletionItem.SortsBefore ↔
      min suggestions.length limit ≤ 100000) :=
  ⟨forall₂_shows suggestions limit,
    fun h => Nat.le_of_not_lt fun hmany => not_pairwise_sortsBefore hmany h,
    pairwise_sortsBefore⟩

theorem completionItems_out_of_order :
    ¬(completionItems (List.replicate 100001 ⟨"k", true, none, none⟩) 100001).Pairwise
      CompletionItem.SortsBefore :=
  not_pairwise_sortsBefore (by rw [List.length_replicate]; omega)

end Keypath
