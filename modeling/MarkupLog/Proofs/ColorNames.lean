import MarkupLog.Proofs.LetterCase
import MarkupLog.Proofs.Thawing

/-!
# Names of colors

Many spellings denote a color, and one of them is its name. A table of spellings makes a palette
exactly when it names entries only and every spelling comes down to the name of a color; the palette
is then written with these names. The case of letters may be that of any full lower-casing, since
the names are ASCII.
-/

namespace MarkupLog

/-! ### Spellings -/

namespace Color

/-- A spelling without blanks at its ends, in lower case, with underscores for dashes. -/
def normal (lower : String → String) (s : String) : String :=
  String.ofList ((lower (Text.trim s)).toList.map fun c => if c = '-' then '_' else c)

/-- A text is the name of a base color, or that behind the mark of the bright ones. -/
def Names (s : String) : Prop :=
  ∃ b : BaseColor, s = b.name ∨ s = brightMark ++ b.name

theorem names_iff (s : String) : Names s ↔ ∃ c : Color, s = c.name := by
  constructor
  · rintro ⟨b, rfl | rfl⟩
    · exact ⟨⟨b, false⟩, rfl⟩
    · exact ⟨⟨b, true⟩, rfl⟩
  · rintro ⟨⟨b, _ | _⟩, rfl⟩
    · exact ⟨b, .inl rfl⟩
    · exact ⟨b, .inr rfl⟩

theorem isAscii_name (c : Color) : Text.IsAscii c.name.toList := by
  have hall : c.name.toList.all (fun x => x.toNat < 128) = true := by
    obtain ⟨base, bright⟩ := c
    cases base <;> cases bright <;> decide
  intro x hx
  exact of_decide_eq_true (List.all_eq_true.mp hall x hx)

theorem isAscii_of_normal {lower : String → String} {s : String}
    (h : Text.IsAscii (normal lower s).toList) : Text.IsAscii (lower (Text.trim s)).toList := by
  intro x hx
  by_cases hdash : x = '-'
  · subst hdash
    decide
  · rw [normal, String.toList_ofList] at h
    exact h x (List.mem_map.mpr ⟨x, hx, if_neg hdash⟩)

/- A name is ASCII, so all full lower-casings agree on a spelling of it. -/
theorem normal_of_lowers {lower other : String → String} (h : Text.Lowers lower)
    (hother : Text.Lowers other) {s : String} {c : Color} (hname : normal lower s = c.name) :
    normal other s = c.name := by
  have hascii : Text.IsAscii (lower (Text.trim s)).toList :=
    isAscii_of_normal (hname ▸ c.isAscii_name)
  rw [normal, hother.eq_of_ascii h hascii]
  exact hname

theorem ofNormalName?_eq_some_iff (s : String) (c : Color) :
    ofNormalName? s = some c ↔ s = c.name := by
  constructor
  · intro h
    unfold ofNormalName? at h
    dsimp only at h
    split at h
    · rename_i hmark
      obtain ⟨rest, hrest⟩ := List.isPrefixOf_iff_prefix.mp hmark
      obtain ⟨b, hb, hc⟩ := Option.map_eq_some_iff.mp h
      have hname := BaseColor.name_of_ofName? hb
      rw [← hrest, List.drop_left] at hname
      rw [← hc, name, if_pos rfl, hname, ← String.toList_inj, String.toList_append,
        String.toList_ofList, hrest]
    · obtain ⟨b, hb, hc⟩ := Option.map_eq_some_iff.mp h
      rw [← hc]
      exact (BaseColor.name_of_ofName? hb).symm
  · rintro rfl
    obtain ⟨base, bright⟩ := c
    cases base <;> cases bright <;> decide

theorem ofName?_eq_some_iff {lower : String → String} (h : Text.Lowers lower) (s : String)
    (c : Color) : ofName? s = some c ↔ normal lower s = c.name := by
  refine (ofNormalName?_eq_some_iff (normalName s) c).trans ⟨fun hname => ?_, fun hname => ?_⟩
  · exact normal_of_lowers Text.lowers_lower h hname
  · exact normal_of_lowers h Text.lowers_lower hname

theorem isSome_ofName?_iff {lower : String → String} (h : Text.Lowers lower) (s : String) :
    (ofName? s).isSome ↔ Names (normal lower s) := by
  rw [names_iff, Option.isSome_iff_exists]
  exact exists_congr fun c => ofName?_eq_some_iff h s c

/-- The name without the mark of the bright colors. -/
def baseName (s : String) : String :=
  if brightMark.toList.isPrefixOf s.toList then
    String.ofList (s.toList.drop brightMark.toList.length)
  else s

theorem baseName_name (c : Color) : baseName c.name = c.base.name := by
  obtain ⟨base, bright⟩ := c
  cases base <;> cases bright <;> decide

end Color

/-! ### Tables of spellings -/

/-- The name with which a palette shows a color that it has for an entry. -/
def PaletteEntry.written : PaletteEntry → String → String
  | .emphasis, name => Color.baseName name
  | _, name => name

namespace Palette

/-- A pair of the name of an entry and a spelling of a color. -/
def Spells (lower : String → String) (pair : String × String) : Prop :=
  (∃ e : PaletteEntry, e.name = pair.1) ∧ Color.Names (Color.normal lower pair.2)

theorem fits_iff {lower : String → String} (h : Text.Lowers lower) (pair : String × String) :
    Fits pair ↔ Spells lower pair := by
  refine and_congr ?_ (Color.isSome_ofName?_iff h pair.2)
  rw [Option.isSome_iff_exists]
  exact exists_congr fun e => PaletteEntry.ofName?_eq_some_iff

theorem colorName_eq (p : Palette) (e : PaletteEntry) :
    p.colorName e = e.written (p.color e).name := by
  cases e with
  | emphasis => exact (Color.baseName_name ⟨p.emphasis, true⟩).symm
  | _ => rfl

theorem written_fitted (e : PaletteEntry) (c : Color) :
    e.written (e.fitted c).name = e.written c.name := by
  cases e with
  | emphasis =>
    show Color.baseName (Color.name ⟨c.base, true⟩) = Color.baseName c.name
    rw [Color.baseName_name, Color.baseName_name]
  | _ => rfl

/- By induction on the pairs that fit. -/
theorem setAll_append_of_fits (p : Palette) {before : Entries String String}
    (h : ∀ pair ∈ before, Fits pair) (rest : Entries String String) :
    ∃ q : Palette, p.setAll (before ++ rest) = q.setAll rest := by
  induction before generalizing p with
  | nil => exact ⟨p, rfl⟩
  | cons pair more ih =>
    obtain ⟨name, color⟩ := pair
    rw [List.forall_mem_cons] at h
    obtain ⟨e, c, -, -, hset⟩ := p.setNamed_of_fits h.1
    obtain ⟨q, hq⟩ := ih (p.set c e) h.2
    refine ⟨q, ?_⟩
    rw [List.cons_append, setAll, hset]
    exact hq

theorem setNamed_of_no_entry (p : Palette) {name : String} (h : ∀ e : PaletteEntry, e.name ≠ name)
    (color : String) : p.setNamed name color = .error (.unknownEntry name) := by
  have hnone : PaletteEntry.ofName? name = none :=
    Option.eq_none_iff_forall_ne_some.mpr fun e he =>
      h e (PaletteEntry.ofName?_eq_some_iff.mp he)
  rw [setNamed, hnone]

theorem setNamed_of_no_color (p : Palette) (e : PaletteEntry) {color : String}
    (h : Color.ofName? color = none) : p.setNamed e.name color = .error (.unknownColor color) := by
  rw [setNamed, PaletteEntry.ofName?_name, h]

theorem colorName_of_color {p : Palette} {t : Entries String String} {lower : String → String}
    (h : Text.Lowers lower) (hkeys : t.keys.Nodup) (hfits : ∀ pair ∈ t, Fits pair)
    {e : PaletteEntry} (hcolor : p.color e = (named? t e).getD (({} : Palette).color e)) :
    p.colorName e = ((t.get? e.name).map fun s => e.written (Color.normal lower s)).getD
      (({} : Palette).colorName e) := by
  rw [colorName_eq, colorName_eq, hcolor]
  unfold named?
  cases hget : t.get? e.name with
  | none => rfl
  | some s =>
    obtain ⟨c, hc⟩ := Option.isSome_iff_exists.mp
      (hfits _ ((Entries.mem_iff_get? hkeys).mpr hget)).2
    have hname := (Color.ofName?_eq_some_iff h s c).mp hc
    rw [Option.bind_some, hc, Option.map_some, Option.getD_some, Option.map_some, Option.getD_some,
      written_fitted, hname]

theorem fits_of_ofEntries {p : Palette} {t : Entries String String} (h : ofEntries t = .ok p) :
    ∀ pair ∈ t, Fits pair := by
  by_contra hnot
  obtain ⟨e, he⟩ := setAll_of_not_fits {} hnot
  exact nomatch h.symm.trans he

theorem ofEntries_toEntries (p : Palette) : ofEntries p.toEntries = .ok p := by
  obtain ⟨q, hq, hcolor⟩ := setAll_of_fits {} p.nodup_toEntries p.fits_toEntries
  have hsame : q = p := eq_of_color fun e => by
    rw [hcolor, named?_toEntries, Option.getD_some]
  rw [ofEntries, hq, hsame]

/-- A table makes a palette exactly when it names entries only and all its spellings come down to
names of colors. The palette is written in full: for each entry that the table names with what its
spelling comes down to, less the mark of the bright colors for emphasis, and for the others with
their defaults. Otherwise the error is about the first pair that is wrong, and first about its entry.
So a palette that is written and read again is the same. All this holds for whatever full
lower-casing the spellings are compared by. -/
theorem spellings_come_to_names {lower : String → String} (hlower : Text.Lowers lower)
    (t : Entries String String) (hkeys : t.keys.Nodup) :
    ((∃ p, ofEntries t = .ok p) ↔ ∀ pair ∈ t, Spells lower pair) ∧
    (∀ p, ofEntries t = .ok p →
      p.toEntries = PaletteEntry.all.map fun e => (e.name,
        ((t.get? e.name).map fun s => e.written (Color.normal lower s)).getD
          (({} : Palette).colorName e))) ∧
    (∀ before name color after, t = before ++ (name, color) :: after →
      (∀ pair ∈ before, Spells lower pair) →
        ((∀ e : PaletteEntry, e.name ≠ name) → ofEntries t = .error (.unknownEntry name)) ∧
        ((∃ e : PaletteEntry, e.name = name) → ¬Color.Names (Color.normal lower color) →
          ofEntries t = .error (.unknownColor color))) ∧
    ∀ p : Palette, ofEntries p.toEntries = .ok p := by
  have hspells : (∀ pair ∈ t, Spells lower pair) ↔ ∀ pair ∈ t, Fits pair :=
    forall₂_congr fun pair _ => (fits_iff hlower pair).symm
  refine ⟨⟨?_, ?_⟩, ?_, ?_, ofEntries_toEntries⟩
  · rintro ⟨p, hp⟩
    exact hspells.mpr (fits_of_ofEntries hp)
  · intro hall
    obtain ⟨p, hp, -⟩ := setAll_of_fits {} hkeys (hspells.mp hall)
    exact ⟨p, hp⟩
  · intro p hp
    have hfits := fits_of_ofEntries hp
    obtain ⟨q, hq, hcolor⟩ := setAll_of_fits {} hkeys hfits
    cases hp.symm.trans hq
    refine List.map_congr_left fun e _ => ?_
    rw [colorName_of_color hlower hkeys hfits (hcolor e)]
  · intro before name color after ht hbefore
    have hfits : ∀ pair ∈ before, Fits pair := fun pair hmem =>
      (fits_iff hlower pair).mpr (hbefore pair hmem)
    obtain ⟨q, hq⟩ := setAll_append_of_fits {} hfits ((name, color) :: after)
    rw [ofEntries, ht, hq, setAll]
    constructor
    · intro hname
      rw [q.setNamed_of_no_entry hname]
    · rintro ⟨e, rfl⟩ hcolor
      have hnone : Color.ofName? color = none :=
        Option.not_isSome_iff_eq_none.mp (mt (Color.isSome_ofName?_iff hlower color).mp hcolor)
      rw [q.setNamed_of_no_color e hnone]

/- A Kelvin sign is a small k, and emphasis is shown without its mark. In the second table the name
of the second pair is no entry, and its color is not looked at. -/
theorem spellings_come_to_names_kelvin :
    let t : Entries String String :=
      [("emphasis", " Bright-BLAC\u212A\t"), ("warn", "bright_CYAN")]
    let u : Entries String String :=
      [("info", "Red"), ("hue", "pink"), ("warn", "bright-bright-red")]
    Text.Lowers Text.lower ∧ (t.keys.Nodup ∧ u.keys.Nodup) ∧
      (∀ pair ∈ t, Spells Text.lower pair) ∧
      (∃ p, ofEntries t = .ok p ∧ p.toEntries = [("info", "green"), ("warn", "bright_cyan"),
        ("error", "red"), ("emphasis", "black"), ("progress_id", "yellow"),
        ("progress_status", "green"), ("progress_bar", "cyan")] ∧ ofEntries p.toEntries = .ok p) ∧
      ofEntries u = .error (.unknownEntry "hue") := by
  intro t u
  have ht : t.keys.Nodup := by decide
  have hu : u.keys.Nodup := by decide
  have hspells : ∀ pair ∈ t, Spells Text.lower pair := by
    have hfits : ∀ pair ∈ t, Fits pair := by decide
    exact fun pair hmem => (fits_iff Text.lowers_lower pair).mp (hfits pair hmem)
  have hred : ∀ pair ∈ [("info", "Red")], Spells Text.lower pair := by
    have hfits : ∀ pair ∈ [("info", "Red")], Fits pair := by decide
    exact fun pair hmem => (fits_iff Text.lowers_lower pair).mp (hfits pair hmem)
  have hhue : ∀ e : PaletteEntry, e.name ≠ "hue" := by
    intro e
    cases e <;> decide
  obtain ⟨hmakes, hwritten, -, hround⟩ := spellings_come_to_names Text.lowers_lower t ht
  obtain ⟨-, -, hfirst, -⟩ := spellings_come_to_names Text.lowers_lower u hu
  obtain ⟨p, hp⟩ := hmakes.mpr hspells
  have hshown := hwritten p hp
  refine ⟨Text.lowers_lower, ⟨ht, hu⟩, hspells, ⟨p, hp, hshown.trans ?_, hround p⟩, ?_⟩
  · decide
  · exact (hfirst [("info", "Red")] "hue" "pink" [("warn", "bright-bright-red")] rfl hred).1 hhue

end Palette

end MarkupLog
