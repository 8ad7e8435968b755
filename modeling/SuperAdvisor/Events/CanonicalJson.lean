import SuperAdvisor.Foundation.Dict
import SuperAdvisor.Foundation.NamedFields

/-!
# Canonical JSON

The one text form in which events, checkpoints and log records are hashed and
stored: ASCII, sorted keys, no blanks, no infinite numbers.
-/

namespace SuperAdvisor

open Python JsonText

def canonicalOptions : DumpOptions :=
  { sortKeys := true, allowNan := false, spaced := false }

def canonicalJson (value : Value) : Except JsonError (List Char) :=
  dumps canonicalOptions value

/-- The dictionary in name order. -/
def sortedDict {α : Type} (dict : Dict String α) : Dict String α :=
  { entries := sortByName dict.entries
    distinct := keys_sortByName_nodup dict.distinct }

/-- The set in ascending order. -/
def sortedKeys (keys : KeySet String) : KeySet String :=
  { items := keys.items.insertionSort (fun left right => left ≤ right)
    distinct := (List.perm_insertionSort _ keys.items).nodup_iff.mpr keys.distinct }

@[simp] theorem mem_keys_sortedDict {α : Type} {dict : Dict String α} {key : String} :
    key ∈ (sortedDict dict).keys ↔ key ∈ dict.keys :=
  ((sortByName_perm dict.entries).map Prod.fst).mem_iff

@[simp] theorem mem_sortedKeys {keys : KeySet String} {key : String} :
    key ∈ (sortedKeys keys).items ↔ key ∈ keys.items :=
  (List.perm_insertionSort _ keys.items).mem_iff

end SuperAdvisor
