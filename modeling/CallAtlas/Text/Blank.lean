/-
Blank characters, and texts without blanks at either end.

`isBlank` is the white space of Unicode: twenty-five characters, five of them controls. `trim` drops them from both
ends and leaves the inside alone; `trim_trim` says that one pass is enough and `trim_eq_self` that a text with no
blank at its ends is left as it is. `folded` gives the form in which an option word is compared: no blanks around it,
ASCII letters in lower case, and the Kelvin sign, the one other character whose lower case is an ASCII letter of its
own, as a plain k.
-/

namespace CallAtlas.Text

/-! ## Characters -/

/-- white space of any script -/
def isBlank (c : Char) : Bool :=
  let n := c.toNat
  (9 ≤ n && n ≤ 13) || n == 0x20 || n == 0x85 || n == 0xA0 || n == 0x1680 || (0x2000 ≤ n && n ≤ 0x200A)
    || n == 0x2028 || n == 0x2029 || n == 0x202F || n == 0x205F || n == 0x3000

/-! ## Trimming -/

/-- characters without the blanks at either end -/
def trimChars (cs : List Char) : List Char :=
  ((cs.dropWhile isBlank).reverse.dropWhile isBlank).reverse

/-- a text without the blanks at either end -/
def trim (s : String) : String :=
  String.ofList (trimChars s.toList)

/-- a list that starts with no blank is not shortened at its front -/
theorem dropWhile_eq_self {p : Char → Bool} {cs : List Char} (h : ∀ c, cs.head? = some c → p c = false) :
    cs.dropWhile p = cs := by
  cases cs with
  | nil => rfl
  | cons c r => simp [List.dropWhile, h c rfl]

theorem head?_dropWhile {p : Char → Bool} {cs : List Char} {c : Char} (h : (cs.dropWhile p).head? = some c) :
    p c = false := by
  simpa [h] using List.head?_dropWhile_not p cs

theorem getLast?_dropWhile {p : Char → Bool} {cs : List Char} {c : Char} (h : (cs.dropWhile p).getLast? = some c) :
    cs.getLast? = some c := by
  induction cs with
  | nil => simp at h
  | cons d r ih =>
    by_cases hd : p d = true
    · have hr : (r.dropWhile p).getLast? = some c := by simpa [List.dropWhile, hd] using h
      have := ih hr
      cases r with
      | nil => simp at this
      | cons e r => simpa using this
    · simpa [List.dropWhile, hd] using h

theorem mem_of_mem_trimChars {cs : List Char} {c : Char} (h : c ∈ trimChars cs) : c ∈ cs := by
  rw [trimChars, List.mem_reverse] at h
  have h := (List.dropWhile_sublist isBlank).subset h
  rw [List.mem_reverse] at h
  exact (List.dropWhile_sublist isBlank).subset h

/-- neither end of trimmed characters is blank -/
theorem isBlank_head?_trimChars {cs : List Char} {c : Char} (h : (trimChars cs).head? = some c) :
    isBlank c = false := by
  have h : ((cs.dropWhile isBlank).reverse.dropWhile isBlank).getLast? = some c := by simpa [trimChars] using h
  have h := getLast?_dropWhile h
  exact @head?_dropWhile _ cs _ (by simpa using h)

theorem isBlank_getLast?_trimChars {cs : List Char} {c : Char} (h : (trimChars cs).getLast? = some c) :
    isBlank c = false :=
  @head?_dropWhile _ (cs.dropWhile isBlank).reverse _ (by simpa [trimChars] using h)

theorem trimChars_eq_self {cs : List Char} (hhead : ∀ c, cs.head? = some c → isBlank c = false)
    (hlast : ∀ c, cs.getLast? = some c → isBlank c = false) : trimChars cs = cs := by
  unfold trimChars
  rw [dropWhile_eq_self hhead, dropWhile_eq_self (by simpa using hlast), List.reverse_reverse]

theorem trimChars_trimChars (cs : List Char) : trimChars (trimChars cs) = trimChars cs :=
  trimChars_eq_self (fun _ => isBlank_head?_trimChars) (fun _ => isBlank_getLast?_trimChars)

theorem trim_eq_self {s : String} (hhead : ∀ c, s.toList.head? = some c → isBlank c = false)
    (hlast : ∀ c, s.toList.getLast? = some c → isBlank c = false) : trim s = s := by
  rw [trim, trimChars_eq_self hhead hlast, String.ofList_toList]

@[simp] theorem trim_trim (s : String) : trim (trim s) = trim s := by
  simp [trim, trimChars_trimChars]

/-! ## Option words -/

/-- a character in lower case, as far as that is an ASCII letter -/
def foldChar (c : Char) : Char :=
  if c.toNat = 0x212A then 'k' else c.toLower

/-- an option word in the form in which it is compared -/
def folded (s : String) : String :=
  String.ofList ((trimChars s.toList).map foldChar)

end CallAtlas.Text
