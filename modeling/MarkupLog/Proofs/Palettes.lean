import MarkupLog.Palette

/-!
# Palettes from tables

A table of colors makes a palette exactly when all its names of entries and all its names of colors
are known. Then each entry has the color that the table has for it, or else keeps the one it had.
-/

namespace MarkupLog

/-! ### Tables with each key once -/

namespace Entries

variable {κ α : Type} [DecidableEq κ]

theorem keys_put (t : Entries κ α) (key : κ) (value : α) :
    (t.put key value).keys = if key ∈ t.keys then t.keys else t.keys ++ [key] := by
  induction t with
  | nil => rfl
  | cons p rest ih =>
    obtain ⟨k, v⟩ := p
    by_cases hk : k = key
    · subst hk
      simp [put, keys]
    · have hne : ¬key = k := fun e => hk e.symm
      simp only [keys] at ih ⊢
      by_cases hmem : key ∈ List.map Prod.fst rest <;> simp [put, hk, hne, ih, hmem]

theorem nodup_put {t : Entries κ α} (h : t.keys.Nodup) (key : κ) (value : α) :
    (t.put key value).keys.Nodup := by
  rw [keys_put]
  split
  · exact h
  · rename_i hmem
    refine List.nodup_append.mpr ⟨h, List.pairwise_singleton _ key, ?_⟩
    rintro a ha b hb rfl
    exact hmem (List.mem_singleton.mp hb ▸ ha)

theorem nodup_putAll {t : Entries κ α} (h : t.keys.Nodup) (more : Entries κ α) :
    (t.putAll more).keys.Nodup := by
  induction more generalizing t with
  | nil => exact h
  | cons p rest ih => exact ih (nodup_put h p.1 p.2)

theorem get?_eq_none {t : Entries κ α} {key : κ} (h : key ∉ t.keys) : t.get? key = none := by
  induction t with
  | nil => rfl
  | cons p rest ih =>
    obtain ⟨hfirst, hrest⟩ := not_or.mp (mt List.mem_cons.mpr h)
    rw [get?_cons, if_neg (Ne.symm hfirst), ih hrest]

theorem mem_iff_get? {t : Entries κ α} (h : t.keys.Nodup) {key : κ} {value : α} :
    (key, value) ∈ t ↔ t.get? key = some value := by
  induction t with
  | nil => simp
  | cons p rest ih =>
    obtain ⟨k, v⟩ := p
    obtain ⟨hfirst, hrest⟩ := List.nodup_cons.mp h
    by_cases hk : k = key
    · subst hk
      have habsent : (k, value) ∉ rest := fun hmem =>
        hfirst (List.mem_map.mpr ⟨(k, value), hmem, rfl⟩)
      simp [habsent, eq_comm]
    · have hne : ¬key = k := fun e => hk e.symm
      simp [hk, hne, ih hrest]

end Entries

/-! ### Entries of palettes -/

namespace PaletteEntry

theorem ofName?_eq_some_iff {s : String} {e : PaletteEntry} : ofName? s = some e ↔ e.name = s := by
  constructor
  · intro h
    simpa using List.find?_some h
  · rintro rfl
    exact ofName?_name e

/-- The color that an entry takes when it is given one: emphasis is always bright. -/
def fitted : PaletteEntry → Color → Color
  | .emphasis, c => { c with bright := true }
  | _, c => c

end PaletteEntry

namespace Palette

def color (p : Palette) : PaletteEntry → Color
  | .info => p.info
  | .warn => p.warn
  | .error => p.error
  | .emphasis => ⟨p.emphasis, true⟩
  | .progressId => p.progressId
  | .progressStatus => p.progressStatus
  | .progressBar => p.progressBar

theorem color_set (p : Palette) (c : Color) (e other : PaletteEntry) :
    (p.set c e).color other = if e = other then e.fitted c else p.color other := by
  cases e <;> cases other <;> rfl

/-- A pair of the name of an entry and the name of a color. -/
def Fits (pair : String × String) : Prop :=
  (PaletteEntry.ofName? pair.1).isSome ∧ (Color.ofName? pair.2).isSome

instance (pair : String × String) : Decidable (Fits pair) :=
  inferInstanceAs (Decidable (_ ∧ _))

/-- The color that a table has for an entry, if it has one. -/
def named? (t : Entries String String) (e : PaletteEntry) : Option Color :=
  ((t.get? e.name).bind Color.ofName?).map e.fitted

theorem setNamed_of_fits (p : Palette) {name color : String} (h : Fits (name, color)) :
    ∃ e c, e.name = name ∧ Color.ofName? color = some c ∧
      p.setNamed name color = .ok (p.set c e) := by
  obtain ⟨e, he⟩ := Option.isSome_iff_exists.mp h.1
  obtain ⟨c, hc⟩ := Option.isSome_iff_exists.mp h.2
  refine ⟨e, c, PaletteEntry.ofName?_eq_some_iff.mp he, hc, ?_⟩
  unfold setNamed
  rw [he, hc]

theorem setNamed_of_not_fits (p : Palette) {name color : String} (h : ¬Fits (name, color)) :
    ∃ e, p.setNamed name color = .error e := by
  unfold setNamed
  cases he : PaletteEntry.ofName? name with
  | none => exact ⟨_, rfl⟩
  | some e =>
    cases hc : Color.ofName? color with
    | none => exact ⟨_, rfl⟩
    | some c => exact absurd ⟨Option.isSome_of_eq_some he, Option.isSome_of_eq_some hc⟩ h

/- By induction on the pairs. With each name once, the pairs behind one do not touch its entry. -/
theorem setAll_of_fits (p : Palette) {t : Entries String String} (hkeys : t.keys.Nodup)
    (h : ∀ pair ∈ t, Fits pair) :
    ∃ q, p.setAll t = .ok q ∧ ∀ e, q.color e = (named? t e).getD (p.color e) := by
  induction t generalizing p with
  | nil => exact ⟨p, rfl, fun _ => rfl⟩
  | cons pair rest ih =>
    obtain ⟨name, color⟩ := pair
    obtain ⟨hfirst, hrest⟩ := List.nodup_cons.mp hkeys
    obtain ⟨e, c, rfl, hc, hset⟩ := p.setNamed_of_fits (h _ (List.mem_cons_self ..))
    obtain ⟨q, hq, hcolor⟩ := ih (p.set c e) hrest fun pair hp => h pair (List.mem_cons_of_mem _ hp)
    refine ⟨q, by simp only [setAll, hset, hq], fun other => ?_⟩
    rw [hcolor, color_set]
    by_cases hother : e = other
    · subst hother
      simp [named?, Entries.get?_eq_none hfirst, hc]
    · have hname : ¬e.name = other.name := fun heq => hother <| by
        have hback := PaletteEntry.ofName?_name e
        rw [heq, PaletteEntry.ofName?_name] at hback
        exact (Option.some.inj hback).symm
      simp [named?, hother, hname]

theorem setAll_of_not_fits (p : Palette) {t : Entries String String}
    (h : ¬∀ pair ∈ t, Fits pair) : ∃ e, p.setAll t = .error e := by
  induction t generalizing p with
  | nil => exact absurd (fun _ hp => nomatch hp) h
  | cons pair rest ih =>
    obtain ⟨name, color⟩ := pair
    by_cases hfits : Fits (name, color)
    · obtain ⟨e, c, -, -, hset⟩ := p.setNamed_of_fits hfits
      simp only [setAll, hset]
      exact ih _ fun hrest => h (List.forall_mem_cons.mpr ⟨hfits, hrest⟩)
    · obtain ⟨e, he⟩ := p.setNamed_of_not_fits hfits
      exact ⟨e, by simp only [setAll, he]⟩

end Palette

end MarkupLog
