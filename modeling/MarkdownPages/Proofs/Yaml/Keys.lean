import MarkdownPages.Proofs.Site.Markup

/-!
# Keys of mappings

Setting an entry whose key is there already keeps the key that is there.  So no two keys of a mapping
that a document gives are the same, at any depth of the document.
-/

namespace MarkdownPages

open Text

namespace Value

variable {key value : Value} {entries list : List (Value × Value)}

/-- No key is the same as a later one. -/
def KeysDiffer (entries : List (Value × Value)) : Prop :=
  (entries.map Prod.fst).Pairwise fun k l => sameKey k l = false

theorem keysDiffer_nil : KeysDiffer [] := .nil

theorem map_fst_putEntry (key value : Value) (entries : List (Value × Value)) :
    (putEntry key value entries).map Prod.fst =
      if (entries.map Prod.fst).any (sameKey · key) then entries.map Prod.fst
      else entries.map Prod.fst ++ [key] := by
  induction entries with
  | nil => rfl
  | cons entry entries ih =>
      rw [putEntry]
      by_cases hsame : sameKey entry.1 key = true
      · simp [hsame]
      · rw [if_neg hsame, List.map_cons, ih, List.map_cons, List.any_cons,
          Bool.eq_false_iff.mpr hsame, Bool.false_or]
        split <;> rfl

theorem KeysDiffer.putEntry (h : KeysDiffer entries) (key value : Value) :
    KeysDiffer (putEntry key value entries) := by
  rw [KeysDiffer, map_fst_putEntry]
  split
  · exact h
  · rename_i hnew
    apply List.pairwise_append.mpr
    refine ⟨h, List.pairwise_singleton _ _, fun k hk l hl => ?_⟩
    obtain rfl := List.mem_singleton.mp hl
    rw [Bool.eq_false_iff]
    intro hsame
    exact hnew (List.any_eq_true.mpr ⟨k, hk, hsame⟩)

theorem mem_putEntry {entry : Value × Value} (h : entry ∈ putEntry key value entries) :
    entry.2 = value ∨ entry ∈ entries := by
  induction entries with
  | nil =>
      obtain rfl := List.mem_singleton.mp h
      exact .inl rfl
  | cons first entries ih =>
      rw [putEntry] at h
      split at h <;> rcases List.mem_cons.mp h with rfl | h
      · exact .inl rfl
      · exact .inr (List.mem_cons_of_mem _ h)
      · exact .inr List.mem_cons_self
      · exact (ih h).imp_right (List.mem_cons_of_mem _)

def putEntries (entries list : List (Value × Value)) : List (Value × Value) :=
  list.foldl (fun entries entry => Value.putEntry entry.1 entry.2 entries) entries

theorem KeysDiffer.putEntries (h : KeysDiffer entries) (list : List (Value × Value)) :
    KeysDiffer (putEntries entries list) := by
  induction list generalizing entries with
  | nil => exact h
  | cons entry list ih => exact ih (h.putEntry entry.1 entry.2)

theorem mem_putEntries {entry : Value × Value} (h : entry ∈ putEntries entries list) :
    entry ∈ entries ∨ ∃ other ∈ list, entry.2 = other.2 := by
  induction list generalizing entries with
  | nil => exact .inl h
  | cons first list ih =>
      rcases ih h with h | ⟨other, hother, heq⟩
      · apply (mem_putEntry h).symm.imp_right
        intro heq
        exact ⟨first, List.mem_cons_self, heq⟩
      · exact .inr ⟨other, List.mem_cons_of_mem _ hother, heq⟩

theorem setting_cases (name : String) (entries : List (Value × Value)) :
    setting name entries = .null ∨ ∃ entry ∈ entries, setting name entries = entry.2 := by
  unfold setting
  split
  · rename_i hfound
    exact .inr ⟨_, List.mem_of_find?_eq_some hfound, rfl⟩
  · exact .inl rfl

end Value

namespace Yaml

variable {d : Document} {value : Value} {entries : List (Value × Value)}

/-! ## Scalars -/

theorem entries?_timestamp {t : Timestamp} (h : t.value = .ok value) : value.entries? = none := by
  unfold Timestamp.value at h
  dsimp only at h
  split at h
  · obtain ⟨day, -, h⟩ := Site.bind_eq_ok_iff.mp h
    cases h
    rfl
  · obtain ⟨moment, -, h⟩ := Site.bind_eq_ok_iff.mp h
    obtain ⟨moment, -, h⟩ := Site.bind_eq_ok_iff.mp h
    cases h
    rfl

theorem entries?_scalarValue {version : Version} {kind : Kind} {s : Text}
    (h : scalarValue version kind s = .ok value) : value.entries? = none := by
  unfold scalarValue at h
  split at h
  case h_6 =>
    split at h
    · exact entries?_timestamp h
    · cases h
  case h_1 | h_7 =>
    cases h
    rfl
  case h_8 => cases h
  all_goals
    obtain ⟨part, -, h⟩ := Site.bind_eq_ok_iff.mp h
    cases h
    rfl

/-! ## Mappings -/

/-- A value of a node, wherever the node stands. -/
def IsBuilt (d : Document) (value : Value) : Prop :=
  ∃ fuel around node, value = d.build fuel around node

def AreBuilt (d : Document) (entries : List (Value × Value)) : Prop :=
  Value.KeysDiffer entries ∧ ∀ entry ∈ entries, IsBuilt d entry.2

theorem areBuilt_nil (d : Document) : AreBuilt d [] := ⟨Value.keysDiffer_nil, by simp⟩

theorem areBuilt_putEntries (d : Document) (fuel : Nat) (around : List Nat)
    (nodes : List (Node × Node)) :
    AreBuilt d (Value.putEntries [] (nodes.map fun e =>
      (Document.keyOf (d.build fuel around e.1), d.build fuel around e.2))) := by
  refine ⟨Value.keysDiffer_nil.putEntries _, fun entry hentry => ?_⟩
  rcases Value.mem_putEntries hentry with hentry | ⟨other, hother, heq⟩
  · cases hentry
  · obtain ⟨e, -, rfl⟩ := List.mem_map.mp hother
    exact ⟨fuel, around, e.2, heq⟩

theorem entries?_scalar (d : Document) (kind : Kind) (s? : Option Text) :
    ((s?.bind fun s => (scalarValue d.version kind s).toOption).getD .null).entries? = none := by
  cases s? with
  | none => rfl
  | some s =>
      rw [Option.bind_some]
      cases hvalue : scalarValue d.version kind s with
      | error e => rfl
      | ok value => exact entries?_scalarValue hvalue

theorem IsBuilt.areBuilt (h : IsBuilt d value) (hentries : value.entries? = some entries) :
    AreBuilt d entries := by
  obtain ⟨fuel, around, node, rfl⟩ := h
  cases fuel with
  | zero => cases hentries
  | succ fuel =>
      rw [Document.build] at hentries
      dsimp only at hentries
      split at hentries
      case h_1 | h_5 =>
        obtain rfl := Option.some.inj hentries
        split
        · exact areBuilt_nil d
        · exact areBuilt_putEntries d fuel _ _
      case h_2 | h_3 | h_4 | h_6 => cases hentries
      all_goals
        rw [entries?_scalar] at hentries
        cases hentries

theorem isBuilt_of_read {s : Text} (h : read s = .ok value) : ∃ d, IsBuilt d value := by
  obtain ⟨d, -, h⟩ := Site.bind_eq_ok_iff.mp h
  obtain ⟨-, -, h⟩ := Site.bind_eq_ok_iff.mp h
  cases h
  exact ⟨d, _, _, _, rfl⟩

theorem IsBuilt.setting {name : String} {list : List (Value × Value)} (h : IsBuilt d value)
    (hentries : value.entries? = some entries)
    (hlist : (Value.setting name entries).entries? = some list) : AreBuilt d list := by
  rcases Value.setting_cases name entries with hnull | ⟨entry, hentry, hsetting⟩
  · rw [hnull] at hlist
    cases hlist
  · rw [hsetting] at hlist
    exact ((h.areBuilt hentries).2 entry hentry).areBuilt hlist

end Yaml

end MarkdownPages
