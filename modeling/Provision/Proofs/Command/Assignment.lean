import Mathlib.Data.List.TakeWhile
import Provision.Command.Assignment
import Provision.Proofs.Except
import Provision.Proofs.Json.Depth
import Provision.Proofs.Table
import Provision.Proofs.Template.Records
import Provision.Proofs.Text.Cut
import Provision.Proofs.Text.Order
import Provision.Proofs.Value.Equality

/-!
# What assignments mean

An item is an assignment if there is an equals sign in it, but not at its start. Items are read in
order: the first one that is no assignment is named in the complaint, and if all of them are, each
key has the value of its last item. What follows the first equals sign is read as JSON if it can be
and is a text otherwise, so every JSON value can be given, and every text that is not JSON.

* `Command.IsAssignment`, `Command.keyOf`, `Command.rawOf`: an item and its parts.
* `Command.readAssignment_eq`: one item.
* `Command.readAssignments_of_all`, `Command.readAssignments_of_first`: **all items.**
-/

namespace Provision

/-! ## Tables of entries -/

namespace Table

universe u

variable {α : Type u}

/-- The keys of a table are those of its entries, in the order of first occurrence. -/
theorem keys_ofEntries (entries : List (String × α)) :
    (ofEntries entries).keys = Text.distinct (keys entries) := by
  induction entries using List.reverseRecOn with
  | nil => rfl
  | append_singleton entries e ih =>
    have hkeys : keys (entries ++ [e]) = keys entries ++ [e.1] := List.map_append
    rw [ofEntries_append, hkeys, Text.distinct_append, ← ih]
    by_cases hmem : e.1 ∈ (ofEntries entries).keys
    · rw [keys_set_of_mem hmem, if_pos (List.contains_iff_mem.2 hmem)]
    · have hnot : ¬ (ofEntries entries).keys.contains e.1 = true := by
        rwa [List.contains_iff_mem]
      rw [set_of_not_mem hmem, if_neg hnot]
      exact List.map_append

/-- The value of a key is that of its last entry. -/
theorem get?_ofEntries (entries : List (String × α)) (key : String) :
    (ofEntries entries).get? key = (entries.filter (·.1 = key)).getLast?.map Prod.snd := by
  induction entries using List.reverseRecOn with
  | nil => rfl
  | append_singleton entries e ih =>
    rw [ofEntries_append, get?_set, List.filter_append]
    by_cases h : key = e.1
    · have hlast : [e].filter (·.1 = key) = [e] := by simp [h]
      rw [if_pos h, hlast, List.getLast?_concat]
      rfl
    · have hnone : [e].filter (·.1 = key) = [] := by simp [Ne.symm h]
      rw [if_neg h, ih, hnone, List.append_nil]

end Table

namespace Command

/-! ## One item -/

/-- An equals sign is in the item, but not at its start. -/
def IsAssignment (item : String) : Prop := '=' ∈ item.toList ∧ item.toList.head? ≠ some '='

instance : DecidablePred IsAssignment := fun item =>
  inferInstanceAs (Decidable ('=' ∈ item.toList ∧ item.toList.head? ≠ some '='))

/-- The text before the first equals sign. -/
def keyOf (item : String) : String := String.ofList (item.toList.takeWhile (· ≠ '='))

/-- The text after the first equals sign. -/
def rawOf (item : String) : String := String.ofList ((item.toList.dropWhile (· ≠ '=')).drop 1)

theorem cut_item {item : String} (h : '=' ∈ item.toList) :
    Text.cut '=' item = some (keyOf item, rawOf item) := by
  have hrest : item.toList.dropWhile (· ≠ '=') =
      '=' :: (item.toList.dropWhile (· ≠ '=')).drop 1 := by
    cases hdrop : item.toList.dropWhile (· ≠ '=') with
    | nil =>
      have hall := List.dropWhile_eq_nil_iff.1 hdrop '=' h
      simp at hall
    | cons c cs =>
      have hc := List.head?_dropWhile_not (· ≠ '=') item.toList
      rw [hdrop] at hc
      have : c = '=' := by simpa using hc
      rw [this]
      rfl
  unfold keyOf rawOf
  rw [Text.cut_eq_some_iff, String.toList_ofList, String.toList_ofList, ← hrest,
    List.takeWhile_append_dropWhile]
  refine ⟨rfl, fun hmem => ?_⟩
  have := List.all_eq_true.1 List.all_takeWhile _ hmem
  simp at this

theorem keyOf_eq_empty_iff {item : String} (h : '=' ∈ item.toList) :
    keyOf item = "" ↔ item.toList.head? = some '=' := by
  obtain ⟨htext, hkey⟩ := Text.cut_eq_some_iff.1 (cut_item h)
  rw [htext, ← String.toList_eq_nil_iff]
  cases hcs : (keyOf item).toList with
  | nil => simp
  | cons c cs =>
    rw [hcs] at hkey
    have hc : c ≠ '=' := fun heq => hkey (heq ▸ List.mem_cons_self)
    simp [hc]

/-- **One item**: what follows the equals sign is read; an item that is no assignment is refused. -/
theorem readAssignment_eq (option item : String) :
    readAssignment option item =
      if IsAssignment item then (readValue (rawOf item)).map fun v => (keyOf item, v)
      else .error (.notAssignment item option) := by
  unfold readAssignment
  by_cases hmem : '=' ∈ item.toList
  · rw [cut_item hmem]
    simp only [keyOf_eq_empty_iff hmem]
    by_cases hhead : item.toList.head? = some '='
    · rw [if_pos hhead, if_neg fun h => h.2 hhead]
    · rw [if_neg hhead, if_pos ⟨hmem, hhead⟩]
  · rw [Text.cut_eq_none_iff.2 hmem, if_neg fun h => hmem h.1]

/-- The value that a text denotes, or the text itself. -/
def valueOf (raw : String) : Value :=
  match Json.read raw with
  | .ok v => v
  | .error _ => .text raw

/-- Only a text that is too deep has no value. -/
theorem readValue_eq_ok {raw : String} (h : Json.read raw ≠ .error .tooDeep) :
    readValue raw = .ok (valueOf raw) := by
  unfold readValue valueOf
  split
  · rename_i v hread
    rw [hread]
  · exact absurd ‹_› h
  · rename_i hread
    rw [hread]

theorem valueOf_of_error {raw : String} {e : Json.Error} (h : Json.read raw = .error e) :
    valueOf raw = .text raw := by
  unfold valueOf
  rw [h]

/-! ## All items -/

variable {option : String} {items : List String}

/-- The text of an item that is read is not too deep. -/
def Shallow (item : String) : Prop :=
  IsAssignment item → Json.read (rawOf item) ≠ .error .tooDeep

/-- A text with few opening brackets and braces is shallow. -/
theorem shallow_of_openings {item : String}
    (h : Json.openings (rawOf item).toList ≤ Value.depthLimit) : Shallow item :=
  fun _ => Json.read_ne_tooDeep h

theorem readAssignment_of_shallow {item : String} (h : IsAssignment item) (hs : Shallow item) :
    readAssignment option item = .ok (keyOf item, valueOf (rawOf item)) := by
  rw [readAssignment_eq, if_pos h, readValue_eq_ok (hs h)]
  rfl

/-- **If all items are assignments**, every key has the value of its last one. -/
theorem readAssignments_of_all (hs : ∀ item ∈ items, Shallow item)
    (h : ∀ item ∈ items, IsAssignment item) :
    readAssignments option items =
      .ok (Table.ofEntries (items.map fun item => (keyOf item, valueOf (rawOf item)))) := by
  unfold readAssignments
  rw [mapM_of_forall fun item hitem => readAssignment_of_shallow (h item hitem) (hs item hitem)]
  rfl

/-- **The first item that is no assignment** is the one that is named. -/
theorem readAssignments_of_first (hs : ∀ item ∈ items, Shallow item) {item : String}
    (h : items.find? (fun i => ¬ IsAssignment i) = some item) :
    readAssignments option items = .error (.notAssignment item option) := by
  obtain ⟨hnot, before, after, rfl, hbefore⟩ := List.find?_eq_some_iff_append.1 h
  have hfirst : ∀ b ∈ before,
      readAssignment option b = .ok (keyOf b, valueOf (rawOf b)) := by
    intro b hb
    refine readAssignment_of_shallow ?_ (hs b (List.mem_append_left _ hb))
    simpa using hbefore b hb
  have hitem : readAssignment option item = .error (.notAssignment item option) := by
    rw [readAssignment_eq, if_neg (of_decide_eq_true hnot)]
  unfold readAssignments
  rw [mapM_of_first hfirst hitem]
  rfl

/-- The item of a key and a text behind it. -/
theorem item_parts {key raw : String} (hkey : key ≠ "") (hfree : '=' ∉ key.toList) :
    IsAssignment (key ++ "=" ++ raw) ∧ keyOf (key ++ "=" ++ raw) = key ∧
      rawOf (key ++ "=" ++ raw) = raw := by
  have htext : (key ++ "=" ++ raw).toList = key.toList ++ '=' :: raw.toList := by simp
  have hmem : '=' ∈ (key ++ "=" ++ raw).toList := by simp
  have hcut := cut_item hmem
  rw [Text.cut_eq_some_iff.2 ⟨htext, hfree⟩, Option.some_inj, Prod.mk.injEq] at hcut
  obtain ⟨hkeyOf, hrawOf⟩ := hcut
  refine ⟨⟨hmem, fun hhead => hkey ?_⟩, hkeyOf.symm, hrawOf.symm⟩
  rw [hkeyOf]
  exact (keyOf_eq_empty_iff hmem).2 hhead

/-- One assignment alone. -/
theorem readAssignments_single {key raw : String} (hkey : key ≠ "") (hfree : '=' ∉ key.toList)
    (hdeep : Json.read raw ≠ .error .tooDeep) :
    readAssignments option [key ++ "=" ++ raw] = .ok [(key, valueOf raw)] := by
  obtain ⟨hassignment, hkeyOf, hrawOf⟩ := @item_parts key raw hkey hfree
  rw [readAssignments_of_all (List.forall_mem_singleton.2 fun _ => by rw [hrawOf]; exact hdeep)
    (List.forall_mem_singleton.2 hassignment), List.map_singleton, hkeyOf, hrawOf]
  rfl

/-- **Assignments can carry every value.** They are refused exactly if one of them has no key or no
equals sign, and the first such item is named; otherwise each key has the value of its last item.
Every JSON value with short integers can be given by its text, and a text that is not JSON is taken
as it is. -/
theorem assignments_carry_every_value (option : String) (items : List String)
    (hs : ∀ item ∈ items, Shallow item) :
    ((∃ item, readAssignments option items = .error (.notAssignment item option)) ↔
      ∃ item ∈ items, '=' ∉ item.toList ∨ item.toList.head? = some '=') ∧
    (∀ e, readAssignments option items = .error e → ∃ item,
      e = .notAssignment item option ∧
      items.find? (fun i => '=' ∉ i.toList ∨ i.toList.head? = some '=') = some item) ∧
    ((∀ item ∈ items, '=' ∈ item.toList ∧ item.toList.head? ≠ some '=') →
      ∃ values, readAssignments option items = .ok values ∧
        values.keys = Text.distinct (items.map keyOf) ∧
        ∀ key item, (items.filter fun i => keyOf i = key).getLast? = some item →
          ∃ v, readValue (rawOf item) = .ok v ∧ values.get? key = some v) ∧
    (∀ key v, key ≠ "" → '=' ∉ key.toList → v.IsJson → v.Throughout Value.Short →
      v.depth ≤ Value.depthLimit →
      ∃ text, Json.writeLine v = .ok text ∧
        readAssignments option [key ++ "=" ++ text] = .ok [(key, v)]) ∧
    (∀ key raw e, key ≠ "" → '=' ∉ key.toList → Json.read raw = .error e → e ≠ .tooDeep →
      readAssignments option [key ++ "=" ++ raw] = .ok [(key, .text raw)]) := by
  have hbad : ∀ item : String,
      ('=' ∉ item.toList ∨ item.toList.head? = some '=') ↔ ¬ IsAssignment item := by
    intro item
    unfold IsAssignment
    rw [not_and_or, not_not]
  have hfind : items.find? (fun i => '=' ∉ i.toList ∨ i.toList.head? = some '=') =
      items.find? fun i => ¬ IsAssignment i := by
    congr 1
    funext i
    exact decide_eq_decide.2 (hbad i)
  -- either all items are assignments, or there is a first one that is none
  have hcases : (∀ item ∈ items, IsAssignment item) ∨
      ∃ item, items.find? (fun i => ¬ IsAssignment i) = some item := by
    cases hfirst : items.find? fun i => ¬ IsAssignment i with
    | none => exact Or.inl (by simpa using List.find?_eq_none.1 hfirst)
    | some item => exact Or.inr ⟨item, rfl⟩
  refine ⟨?refused, ?named, ?read, ?given, ?kept⟩
  case refused =>
    constructor
    · rintro ⟨item, hitem⟩
      rcases hcases with hall | ⟨first, hfirst⟩
      · rw [readAssignments_of_all hs hall] at hitem
        cases hitem
      · refine ⟨first, List.mem_of_find?_eq_some hfirst, (hbad first).2 ?_⟩
        simpa using List.find?_some hfirst
    · rintro ⟨item, hmem, hitem⟩
      rcases hcases with hall | ⟨first, hfirst⟩
      · exact absurd (hall item hmem) ((hbad item).1 hitem)
      · exact ⟨first, readAssignments_of_first hs hfirst⟩
  case named =>
    intro e he
    rcases hcases with hall | ⟨first, hfirst⟩
    · rw [readAssignments_of_all hs hall] at he
      cases he
    · rw [readAssignments_of_first hs hfirst] at he
      exact ⟨first, (Except.error.inj he).symm, hfind.trans hfirst⟩
  case read =>
    intro hall
    refine ⟨_, readAssignments_of_all hs hall, ?_, fun key item hlast => ?_⟩
    · rw [Table.keys_ofEntries]
      unfold Table.keys
      rw [List.map_map]
      rfl
    · have hmem : item ∈ items := List.mem_of_mem_filter (List.mem_of_getLast? hlast)
      refine ⟨_, readValue_eq_ok (hs item hmem (hall item hmem)), ?_⟩
      rw [Table.get?_ofEntries, List.filter_map, List.getLast?_map]
      have hfilter : (items.filter ((fun e : String × Value => decide (e.1 = key)) ∘
          fun item => (keyOf item, valueOf (rawOf item)))).getLast? = some item := hlast
      rw [hfilter]
      rfl
  case given =>
    intro key v hkey hfree hv hshort hdepth
    obtain ⟨text, hwrite, hread⟩ := Json.read_writeLine hv hshort hdepth
    refine ⟨text, hwrite, ?_⟩
    rw [readAssignments_single hkey hfree (by rw [hread]; rintro ⟨⟩), valueOf, hread]
  case kept =>
    intro key raw e hkey hfree hread hdeep
    have hne : Json.read raw ≠ .error .tooDeep := by
      rw [hread]
      exact fun heq => hdeep (Except.error.inj heq)
    rw [readAssignments_single hkey hfree hne, valueOf_of_error hread]

/-- A key twice, an address that only starts like a number, and a text with an equals sign. -/
def mixedItems : List String := ["size=1", "net=10.0.0.0/24", "size=[2, NaN]", "note=a=b"]

theorem pair_isJson : Value.IsJson (.list [.int 2, .text "="]) := by
  have hitems : ∀ v ∈ [Value.int 2, .text "="], v.IsJson :=
    List.forall_mem_cons.2 ⟨⟨Value.wellFormed_leaf trivial trivial trivial,
      Value.throughout_leaf trivial trivial⟩,
      List.forall_mem_singleton.2 (isJson_text (Text.isPlain_of_mark_free (by decide)))⟩
  refine ⟨Value.wellFormed_list.2 fun v hv => (hitems v hv).toWellFormed, ?_⟩
  exact Value.throughout_list.2 ⟨trivial, fun v hv => (hitems v hv).plain⟩

theorem pair_short : (Value.list [.int 2, .text "="]).Throughout Value.Short := by
  have hint : Value.Short (.int 2) := by
    unfold Value.Short
    decide
  exact Value.throughout_list.2 ⟨trivial, List.forall_mem_cons.2
    ⟨Value.throughout_leaf trivial hint, List.forall_mem_singleton.2 (short_text _)⟩⟩

theorem assignments_carry_every_value_mixed :
    (∃ values, readAssignments "--fill" mixedItems = .ok values ∧
      values.keys = ["size", "net", "note"] ∧
      values.get? "size" = some (.list [.int 2, .double .nan]) ∧
      values.get? "net" = some (.text "10.0.0.0/24") ∧
      values.get? "note" = some (.text "a=b")) ∧
    readAssignments "--fill" ["size=1", "=2", "size"] = .error (.notAssignment "=2" "--fill") ∧
    (∃ text, Json.writeLine (.list [.int 2, .text "="]) = .ok text ∧
      readAssignments "--fill" ["size" ++ "=" ++ text] =
        .ok [("size", .list [.int 2, .text "="])]) ∧
    readAssignments "--fill" ["size" ++ "=" ++ "007"] = .ok [("size", .text "007")] := by
  have hmixed : ∀ item ∈ mixedItems, Shallow item := by
    have hopenings : ∀ item ∈ mixedItems,
        Json.openings (rawOf item).toList ≤ Value.depthLimit := by decide +kernel
    exact fun item hitem => shallow_of_openings (hopenings item hitem)
  have hbroken : ∀ item ∈ ["size=1", "=2", "size"], Shallow item := by
    have hopenings : ∀ item ∈ ["size=1", "=2", "size"],
        Json.openings (rawOf item).toList ≤ Value.depthLimit := by decide +kernel
    exact fun item hitem => shallow_of_openings (hopenings item hitem)
  obtain ⟨-, -, hread, hgiven, hkept⟩ := assignments_carry_every_value "--fill" mixedItems hmixed
  refine ⟨?_, ?_, ?_, ?_⟩
  · obtain ⟨values, hvalues, hkeys, hlast⟩ := hread (by decide +kernel)
    obtain ⟨size, hsize, hgetSize⟩ := hlast "size" "size=[2, NaN]" (by decide +kernel)
    obtain ⟨net, hnet, hgetNet⟩ := hlast "net" "net=10.0.0.0/24" (by decide +kernel)
    obtain ⟨text, htext, hgetText⟩ := hlast "note" "note=a=b" (by decide +kernel)
    have hsize' : readValue (rawOf "size=[2, NaN]") = .ok (.list [.int 2, .double .nan]) := by
      decide +kernel
    have hnet' : readValue (rawOf "net=10.0.0.0/24") = .ok (.text "10.0.0.0/24") := by
      decide +kernel
    have htext' : readValue (rawOf "note=a=b") = .ok (.text "a=b") := by decide +kernel
    refine ⟨values, hvalues, hkeys.trans (by decide +kernel), ?_, ?_, ?_⟩
    · rw [hgetSize, ← Except.ok.inj (hsize.symm.trans hsize')]
    · rw [hgetNet, ← Except.ok.inj (hnet.symm.trans hnet')]
    · rw [hgetText, ← Except.ok.inj (htext.symm.trans htext')]
  · obtain ⟨hrefused, hnamed, -⟩ :=
      assignments_carry_every_value "--fill" ["size=1", "=2", "size"] hbroken
    obtain ⟨item, hitem⟩ := hrefused.2 ⟨"size", by decide, by decide +kernel⟩
    obtain ⟨named, heq, hfirst⟩ := hnamed _ hitem
    have hsecond : ["size=1", "=2", "size"].find?
        (fun i => '=' ∉ i.toList ∨ i.toList.head? = some '=') = some "=2" := by decide +kernel
    rw [hitem, heq, Option.some.inj (hfirst.symm.trans hsecond)]
  · exact hgiven "size" _ (by decide) (by decide +kernel) pair_isJson pair_short (by decide)
  · exact hkept "size" "007" _ (by decide) (by decide +kernel)
      (show Json.read "007" = .error (.malformed .extraData 1 2 1) by decide +kernel) (by decide)

end Command

end Provision
