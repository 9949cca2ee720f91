/-
The grammar of paths.

`Form` lists the ways to write a descriptor, and a path spells descriptors if it is made of a form of each, in their
order. The reader goes through a path with one character of look-ahead and knows nothing of the grammar.
- `quotedName?_append`: a name in backticks ends at the first backtick that is not doubled.
- `first?_append`: a form at the front is read as its descriptor, whatever follows it.
- `exists_form_of_first?`: what is read at the front is a form, so each step gets on.
- `reads_grammar`: the reader accepts the paths of the grammar and no others, and gives the descriptors that they spell.
-/
import Mathlib.Data.List.Forall2
import Mathlib.Data.List.TakeWhile
import Mathlib.Tactic.SplitIfs
import CallAtlas.Index.Descriptor

namespace CallAtlas

namespace Descriptor

/-! ## Forms -/

/-- a text with every backtick written twice -/
def doubled (cs : List Char) : List Char :=
  cs.flatMap fun c => if c = tick then [tick, tick] else [c]

/-- ways to write a name: as it is, or between backticks -/
inductive NameForm : String → List Char → Prop where
  | plain {cs : List Char} (hne : cs ≠ []) (hcs : ∀ c ∈ cs, isNameChar c = true) : NameForm (String.ofList cs) cs
  | quoted (name : String) : NameForm name (tick :: (doubled name.toList ++ [tick]))

/-- the mark behind a name, for the kinds that are told by a single one -/
def mark? : DescriptorKind → Option Char
  | .space => some '/'
  | .type => some '#'
  | .term => some '.'
  | .metaItem => some ':'
  | .macroItem => some '!'
  | .method | .typeParameter | .parameter => none

/-- ways to write a descriptor -/
inductive Form : Descriptor → List Char → Prop where
  | marked {kind : DescriptorKind} {c : Char} {name : String} {cs : List Char} (hmark : mark? kind = some c)
      (hname : NameForm name cs) : Form ⟨kind, name⟩ (cs ++ [c])
  | method {name : String} {cs signature : List Char} (hname : NameForm name cs) (hsignature : ')' ∉ signature) :
      Form ⟨.method, name⟩ (cs ++ '(' :: (signature ++ [')', '.']))
  | typeParameter {name : String} {cs : List Char} (hname : NameForm name cs) :
      Form ⟨.typeParameter, name⟩ ('[' :: (cs ++ [']']))
  | parameter {name : String} {cs : List Char} (hname : NameForm name cs) :
      Form ⟨.parameter, name⟩ ('(' :: (cs ++ [')']))

/-- a path is made of a form of each descriptor, one after another -/
def Spells (ds : List Descriptor) (path : List Char) : Prop :=
  ∃ forms, List.Forall₂ Form ds forms ∧ forms.flatten = path

variable {name : String} {cs r form : List Char} {c : Char} {d : Descriptor}

/-! ## Names -/

/-- a character that ends a name -/
def Ends (c : Char) : Prop :=
  isNameChar c = false ∧ c ≠ tick

instance (c : Char) : Decidable (Ends c) := by
  unfold Ends; infer_instance

theorem isNameChar_tick : isNameChar tick = false := by
  decide

theorem ends_of_mark? {kind : DescriptorKind} (h : mark? kind = some c) : Ends c := by
  cases kind <;> cases h <;> decide

theorem doubled_cons (c : Char) (cs : List Char) :
    doubled (c :: cs) = (if c = tick then [tick, tick] else [c]) ++ doubled cs :=
  List.flatMap_cons

/-- the closing backtick is the first one that no backtick follows -/
theorem quotedName?_append (quoted : List Char) (hr : r.head? ≠ some tick) :
    quotedName? (doubled quoted ++ tick :: r) = some (quoted, r) := by
  induction quoted with
  | nil =>
    cases r with
    | nil => simp [doubled, quotedName?]
    | cons c r =>
      have hc : c ≠ tick := fun hc => hr (congrArg some hc)
      simp [doubled, quotedName?, hc]
  | cons c quoted ih =>
    by_cases hc : c = tick
    · simp [doubled_cons, quotedName?, hc, ih]
    · rw [doubled_cons, if_neg hc, List.singleton_append, List.cons_append, quotedName?.eq_def]
      simp [hc, ih]

theorem eq_of_quotedName? {quoted : List Char} (h : quotedName? cs = some (quoted, r)) :
    cs = doubled quoted ++ tick :: r := by
  fun_induction quotedName? cs generalizing quoted r with
  | case1 => cases h
  | case2 rest ih =>
    obtain ⟨⟨inner, after⟩, hinner, heq⟩ := Option.map_eq_some_iff.1 h
    cases heq
    simp [doubled_cons, ih hinner]
  | case3 c rest hc =>
    cases h
    rfl
  | case4 =>
    cases h
    rfl
  | case5 c rest hc ih =>
    obtain ⟨⟨inner, after⟩, hinner, heq⟩ := Option.map_eq_some_iff.1 h
    cases heq
    simp [doubled_cons, hc, ih hinner]

/-- a name starts with a backtick or with a character of a name -/
theorem NameForm.exists_eq_cons (h : NameForm name form) :
    ∃ c rest, form = c :: rest ∧ (c = tick ∨ isNameChar c = true) := by
  cases h with
  | plain hne hcs =>
    obtain ⟨c, rest, rfl⟩ := List.exists_cons_of_ne_nil hne
    exact ⟨c, rest, rfl, Or.inr (hcs c List.mem_cons_self)⟩
  | quoted => exact ⟨tick, _, rfl, Or.inl rfl⟩

/-- **A name is read back**, from either form, if something follows that ends it. -/
theorem name?_append (h : NameForm name form) (hc : Ends c) : name? (form ++ c :: r) = some (name, c :: r) := by
  cases h with
  | @plain form hne hcs =>
    have htake : (form ++ c :: r).takeWhile isNameChar = form := by
      rw [List.takeWhile_append_of_pos hcs, List.takeWhile_cons_of_neg (by simp [hc.1]), List.append_nil]
    have hdrop : (form ++ c :: r).dropWhile isNameChar = c :: r := by
      rw [List.dropWhile_append_of_pos hcs, List.dropWhile_cons_of_neg (by simp [hc.1])]
    obtain ⟨first, rest, rfl⟩ := List.exists_cons_of_ne_nil hne
    have hfirst : first ≠ tick := by
      rintro rfl
      exact absurd (hcs tick List.mem_cons_self) (by simp [isNameChar_tick])
    rw [List.cons_append] at htake hdrop ⊢
    simp [name?, hfirst, htake, hdrop]
  | quoted =>
    have hnext : (c :: r).head? ≠ some tick := fun heq => hc.2 (Option.some.inj heq)
    simp [name?, quotedName?_append name.toList hnext]

theorem exists_form_of_name? (h : name? cs = some (name, r)) : ∃ form, NameForm name form ∧ cs = form ++ r := by
  unfold name? at h
  split at h
  next => cases h
  next c rest =>
    split at h
    next hc =>
      obtain ⟨⟨quoted, after⟩, hquoted, heq⟩ := Option.map_eq_some_iff.1 h
      cases heq
      have hform : NameForm (String.ofList quoted) (tick :: (doubled quoted ++ [tick])) := by
        simpa using NameForm.quoted (String.ofList quoted)
      exact ⟨_, hform, by simp [hc, eq_of_quotedName? hquoted]⟩
    next hc =>
      dsimp only at h
      split at h
      next => cases h
      next hne =>
        cases h
        exact ⟨_, .plain hne fun x hx => List.mem_takeWhile_imp hx, List.takeWhile_append_dropWhile.symm⟩

/-! ## Descriptors -/

theorem afterSignature?_append {signature : List Char} (h : ')' ∉ signature) :
    afterSignature? (signature ++ ')' :: '.' :: r) = some r := by
  have hdrop : (signature ++ ')' :: '.' :: r).dropWhile (· ≠ ')') = ')' :: '.' :: r := by
    rw [List.dropWhile_append_of_pos fun x hx => by simpa using fun heq : x = ')' => h (heq ▸ hx)]
    simp
  simp only [afterSignature?, hdrop]

theorem exists_signature_of_afterSignature? (h : afterSignature? cs = some r) :
    ∃ signature, ')' ∉ signature ∧ cs = signature ++ ')' :: '.' :: r := by
  unfold afterSignature? at h
  split at h
  next close rest hdrop =>
    cases h
    have hclose : close = ')' := by
      have hhead := List.head?_dropWhile_not (· ≠ ')') cs
      rw [hdrop] at hhead
      simpa using hhead
    refine ⟨cs.takeWhile (· ≠ ')'), fun hmem => by simpa using List.mem_takeWhile_imp hmem, ?_⟩
    subst hclose
    rw [← hdrop, List.takeWhile_append_dropWhile]
  next => cases h

theorem bracketed?_append {kind : DescriptorKind} (h : NameForm name form) (hc : Ends c) :
    bracketed? kind c (form ++ c :: r) = some (⟨kind, name⟩, r) := by
  simp [bracketed?, name?_append h hc]

theorem exists_form_of_bracketed? {kind : DescriptorKind} (h : bracketed? kind c cs = some (d, r)) :
    ∃ name form, NameForm name form ∧ d = ⟨kind, name⟩ ∧ cs = form ++ c :: r := by
  unfold bracketed? at h
  split at h
  next name close rest hname =>
    split at h
    next hclose =>
      cases h
      obtain ⟨form, hform, rfl⟩ := exists_form_of_name? hname
      exact ⟨name, form, hform, rfl, by rw [hclose]⟩
    next => cases h
  next => cases h

theorem marked?_append {kind : DescriptorKind} (hmark : mark? kind = some c) (h : NameForm name form) :
    marked? (form ++ c :: r) = some (⟨kind, name⟩, r) := by
  have hname := name?_append (r := r) h (ends_of_mark? hmark)
  cases kind <;> cases hmark <;> simp [marked?, hname]

theorem marked?_append_method {signature : List Char} (h : NameForm name form) (hsignature : ')' ∉ signature) :
    marked? (form ++ '(' :: (signature ++ ')' :: '.' :: r)) = some (⟨.method, name⟩, r) := by
  simp [marked?, name?_append h (show Ends '(' by decide), afterSignature?_append hsignature]

theorem exists_form_of_marked? (h : marked? cs = some (d, r)) : ∃ form, Form d form ∧ cs = form ++ r := by
  unfold marked? at h
  split at h
  next name c rest hname =>
    obtain ⟨form, hform, rfl⟩ := exists_form_of_name? hname
    have hmarked : ∀ kind : DescriptorKind, mark? kind = some c → some ((⟨kind, name⟩ : Descriptor), rest) = some (d, r) →
        ∃ written, Form d written ∧ form ++ c :: rest = written ++ r := by
      intro kind hmark heq
      cases heq
      exact ⟨form ++ [c], .marked hmark hform, by simp⟩
    split_ifs at h with hspace htype hterm hmeta hbang hmethod
    · exact hmarked .space (hspace ▸ rfl) h
    · exact hmarked .type (htype ▸ rfl) h
    · exact hmarked .term (hterm ▸ rfl) h
    · exact hmarked .metaItem (hmeta ▸ rfl) h
    · exact hmarked .macroItem (hbang ▸ rfl) h
    · obtain ⟨after, hafter, heq⟩ := Option.map_eq_some_iff.1 h
      cases heq
      obtain ⟨signature, hsignature, rfl⟩ := exists_signature_of_afterSignature? hafter
      exact ⟨_, .method hform hsignature, by simp [hmethod]⟩
  next => cases h

/-- **A form at the front is read as its descriptor**, whatever follows. -/
theorem first?_append (h : Form d form) (r : List Char) : first? (form ++ r) = some (d, r) := by
  have hunbracketed : ∀ {name : String} {form rest : List Char}, NameForm name form →
      first? (form ++ rest) = marked? (form ++ rest) := by
    intro name form rest hname
    obtain ⟨c, after, rfl, hc⟩ := hname.exists_eq_cons
    have hbracket : c ≠ '[' := by rintro rfl; revert hc; decide
    have hparen : c ≠ '(' := by rintro rfl; revert hc; decide
    simp [first?, hbracket, hparen]
  cases h with
  | marked hmark hname =>
    rw [List.append_assoc, hunbracketed hname, List.singleton_append, marked?_append hmark hname]
  | @method name form signature hname hsignature =>
    have hsplit : form ++ '(' :: (signature ++ [')', '.']) ++ r = form ++ '(' :: (signature ++ ')' :: '.' :: r) := by
      simp
    rw [hsplit, hunbracketed hname, marked?_append_method hname hsignature]
  | typeParameter hname => simp [first?, bracketed?_append hname (show Ends ']' by decide)]
  | parameter hname => simp [first?, bracketed?_append hname (show Ends ')' by decide)]

/-- **What is read at the front is a form.** -/
theorem exists_form_of_first? (h : first? cs = some (d, r)) : ∃ form, Form d form ∧ cs = form ++ r := by
  unfold first? at h
  split at h
  next => cases h
  next c rest =>
    split_ifs at h with hbracket hparen
    · obtain ⟨name, form, hform, rfl, rfl⟩ := exists_form_of_bracketed? h
      exact ⟨_, .typeParameter hform, by simp [hbracket]⟩
    · obtain ⟨name, form, hform, rfl, rfl⟩ := exists_form_of_bracketed? h
      exact ⟨_, .parameter hform, by simp [hparen]⟩
    · exact exists_form_of_marked? h

theorem Form.ne_nil (h : Form d form) : form ≠ [] := by
  cases h <;> simp

theorem length_lt_of_first? (h : first? cs = some (d, r)) : r.length < cs.length := by
  obtain ⟨form, hform, rfl⟩ := exists_form_of_first? h
  have hpos : 0 < form.length := List.length_pos_of_ne_nil hform.ne_nil
  rw [List.length_append]
  omega

/-- every descriptor can be written, whatever its name -/
theorem exists_form (d : Descriptor) : ∃ form, Form d form := by
  obtain ⟨kind, name⟩ := d
  have hname : NameForm name _ := .quoted name
  cases kind with
  | method => exact ⟨_, .method hname (List.not_mem_nil : ')' ∉ [])⟩
  | typeParameter => exact ⟨_, .typeParameter hname⟩
  | parameter => exact ⟨_, .parameter hname⟩
  | _ => exact ⟨_, .marked rfl hname⟩

/-! ## Paths -/

variable {ds ds' : List Descriptor} {forms forms' : List (List Char)}

/-- a path is read back form by form -/
theorem descriptors?_flatten (h : List.Forall₂ Form ds forms) : descriptors? forms.flatten = some ds := by
  induction h with
  | nil => simp [descriptors?]
  | @cons d form ds forms hform _ ih =>
    have hfirst : first? (form ++ forms.flatten) = some (d, forms.flatten) := first?_append hform _
    have hne : form ++ forms.flatten ≠ [] := fun heq => hform.ne_nil (List.append_eq_nil_iff.1 heq).1
    rw [List.flatten_cons, descriptors?, if_neg hne, hfirst]
    simp only [length_lt_of_first? hfirst, if_true, ih, Option.map_some]

/-- any descriptors can be written one after another -/
theorem exists_spells (ds : List Descriptor) : ∃ path, Spells ds path := by
  induction ds with
  | nil => exact ⟨_, [], List.Forall₂.nil, rfl⟩
  | cons d ds ih =>
    obtain ⟨form, hform⟩ := exists_form d
    obtain ⟨_, forms, hforms, -⟩ := ih
    exact ⟨_, form :: forms, List.Forall₂.cons hform hforms, rfl⟩

theorem spells_of_descriptors? (h : descriptors? cs = some ds) : Spells ds cs := by
  fun_induction descriptors? cs generalizing ds with
  | case1 =>
    cases h
    exact ⟨[], List.Forall₂.nil, rfl⟩
  | case2 cs hne d r hfirst hlt ih =>
    obtain ⟨rest, hrest, rfl⟩ := Option.map_eq_some_iff.1 h
    obtain ⟨forms, hforms, rfl⟩ := ih hrest
    obtain ⟨form, hform, rfl⟩ := exists_form_of_first? hfirst
    exact ⟨form :: forms, List.Forall₂.cons hform hforms, rfl⟩
  | case3 => cases h
  | case4 => cases h

/-- **A path can be divided in one way only.** -/
theorem forms_unique (h : List.Forall₂ Form ds forms) (h' : List.Forall₂ Form ds' forms')
    (hpath : forms.flatten = forms'.flatten) : ds = ds' ∧ forms = forms' := by
  have hds : ds = ds' :=
    Option.some.inj ((descriptors?_flatten h).symm.trans (hpath ▸ descriptors?_flatten h'))
  subst hds
  refine ⟨rfl, ?_⟩
  induction h generalizing forms' with
  | nil =>
    cases h'
    rfl
  | @cons d form ds forms hform _ ih =>
    cases h' with
    | @cons _ form' _ forms' hform' hforms' =>
      rw [List.flatten_cons, List.flatten_cons] at hpath
      have hrest := (first?_append hform _).symm.trans (hpath ▸ first?_append hform' _)
      have hrest : forms.flatten = forms'.flatten := (Prod.mk.inj (Option.some.inj hrest)).2
      rw [hrest, List.append_left_inj] at hpath
      rw [hpath, ih hrest hforms']

/-- **The reader accepts the grammar.** A path is read as descriptors exactly if it spells them; the path tells the
descriptors and where the form of each ends. All that spells nothing is refused. Whatever their names, descriptors can
be spelled. The reader stops: each step takes a form off the front, and no form is empty. -/
theorem reads_grammar (path : List Char) :
    (∀ ds, descriptors? path = some ds ↔ Spells ds path) ∧
      (descriptors? path = none ↔ ∀ ds, ¬ Spells ds path) ∧
      (∀ ds forms ds' forms', List.Forall₂ Form ds forms → List.Forall₂ Form ds' forms' → forms.flatten = path →
        forms'.flatten = path → ds = ds' ∧ forms = forms') ∧
      (∀ ds, ∃ written, Spells ds written ∧ descriptors? written = some ds) ∧
      ∀ d r, first? path = some (d, r) → (∃ form, Form d form ∧ path = form ++ r) ∧ r.length < path.length := by
  have hreads : ∀ {written ds}, descriptors? written = some ds ↔ Spells ds written := by
    intro written ds
    refine ⟨spells_of_descriptors?, ?_⟩
    rintro ⟨forms, hforms, rfl⟩
    exact descriptors?_flatten hforms
  refine ⟨fun ds => hreads, ?_, ?_, fun ds => ?_, fun d r hfirst => ?_⟩
  · rw [Option.eq_none_iff_forall_ne_some]
    exact forall_congr' fun ds => not_congr hreads
  · exact fun ds forms ds' forms' h h' hpath hpath' => forms_unique h h' (hpath.trans hpath'.symm)
  · obtain ⟨written, hwritten⟩ := exists_spells ds
    exact ⟨written, hwritten, hreads.2 hwritten⟩
  · exact ⟨exists_form_of_first? hfirst, length_lt_of_first? hfirst⟩

end Descriptor

end CallAtlas
