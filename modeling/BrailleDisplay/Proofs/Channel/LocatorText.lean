import BrailleDisplay.Channel.Locator
import BrailleDisplay.Proofs.Text.Trimming

/-!
# How locators are spelled

A text is read as a locator without the blanks around it.  What stands before its first colon, in
whatever case, says where to look, and all that stands behind is the operand, whatever it contains.

* `Denotes` — what a text without blanks around it means, with one constructor for each form;
* `Misspelt` — the texts that mean nothing, and what is said of them;
* `denotes_or_misspelt` — there are no others;
* `Respelling` — the differences in spelling that do not count;
* `Denotes.text` — the text of a locator that was read is bare, and means that locator;
* `parse_reads` — what there is to know of how a text is read.
-/

namespace BrailleDisplay.Locator

open Text (asciiLower trim trimStart trimEnd Blank Bare Trimmed)

variable {s t q body operand : String} {locator : Locator} {fault : ChannelFault}

/-- There is no colon in the text. -/
def Colonless (s : String) : Prop :=
  ':' ∉ s.toList

instance : Decidable (Colonless s) :=
  inferInstanceAs (Decidable (':' ∉ s.toList))

/-- What a text means as a locator.  A qualifier has no colon, so an operand is all that stands
behind the first, with any colons and blanks there are in it. -/
inductive Denotes : String → Locator → Prop where
  | nothing : Denotes "" any
  | auto {word : String} (named : asciiLower word = "auto") : Denotes word any
  /-- Anything on USB. -/
  | bus {q : String} (named : asciiLower q = "usb") : Denotes (q ++ ":") (usb none)
  | usb {q operand : String} (named : asciiLower q = "usb") (given : operand ≠ "") :
      Denotes (q ++ ":" ++ operand) (usb (some operand))
  | bluetooth {q operand : String} (named : asciiLower q = "bluetooth" ∨ asciiLower q = "bt")
      (given : operand ≠ "") : Denotes (q ++ ":" ++ operand) (bluetooth operand)
  | serial {q operand : String} (named : asciiLower q = "serial") (given : operand ≠ "") :
      Denotes (q ++ ":" ++ operand) (serial operand)

/-- The texts that are no locator, each with what is said of it. -/
inductive Misspelt : String → ChannelFault → Prop where
  | unqualified {body : String} (given : body ≠ "") (plain : asciiLower body ≠ "auto")
      (colonless : Colonless body) :
      Misspelt body (.invalidLocator ("missing qualifier: \"" ++ body ++ "\""))
  | unknown {q operand : String} (colonless : Colonless q)
      (strange : asciiLower q ∉ ["usb", "bluetooth", "bt", "serial"]) :
      Misspelt (q ++ ":" ++ operand) (.invalidLocator
        ("unknown qualifier \"" ++ asciiLower q ++ "\". Use usb:, bluetooth: or serial:"))
  | noAddress {q : String} (named : asciiLower q = "bluetooth" ∨ asciiLower q = "bt") :
      Misspelt (q ++ ":") (.invalidLocator "bluetooth locator needs an address")
  | noPath {q : String} (named : asciiLower q = "serial") :
      Misspelt (q ++ ":") (.invalidLocator "serial locator needs a device path")

/-- The differences in spelling that do not count. -/
inductive Respelling : String → String → Prop where
  | blanks {before s after : String} (leading : Blank before) (trailing : Blank after) :
      Respelling (before ++ s ++ after) s
  | auto {word : String} (named : asciiLower word = "auto") : Respelling word "auto"
  | qualifier {q r operand : String} (colonless : Colonless q)
      (same : asciiLower q = asciiLower r) :
      Respelling (q ++ ":" ++ operand) (r ++ ":" ++ operand)
  | bluetooth {q r operand : String} (short : asciiLower q = "bt")
      (long : asciiLower r = "bluetooth") :
      Respelling (q ++ ":" ++ operand) (r ++ ":" ++ operand)

/-! ### The first colon -/

theorem splitColon?_append {before after : List Char} (colonless : ':' ∉ before) :
    splitColon? (before ++ ':' :: after) = some (before, after) := by
  induction before with
  | nil => rfl
  | cons c rest ih =>
    rw [List.mem_cons, not_or] at colonless
    rw [List.cons_append, splitColon?, if_neg (Ne.symm colonless.1), ih colonless.2]
    rfl

theorem splitColon?_eq_none {text : List Char} (colonless : ':' ∉ text) :
    splitColon? text = none := by
  induction text with
  | nil => rfl
  | cons c rest ih =>
    rw [List.mem_cons, not_or] at colonless
    rw [splitColon?, if_neg (Ne.symm colonless.1), ih colonless.2]
    rfl

/-- A text has a first colon or none. -/
theorem exists_firstColon {text : List Char} (colon : ':' ∈ text) :
    ∃ before after, text = before ++ ':' :: after ∧ ':' ∉ before := by
  induction text with
  | nil => cases colon
  | cons c rest ih =>
    by_cases here : c = ':'
    · exact ⟨[], rest, by rw [here]; rfl, List.not_mem_nil⟩
    · obtain ⟨before, after, split, colonless⟩ :=
        ih ((List.mem_cons.mp colon).resolve_left (Ne.symm here))
      refine ⟨c :: before, after, by rw [split]; rfl, ?_⟩
      rw [List.mem_cons, not_or]
      exact ⟨Ne.symm here, colonless⟩

/-- A text with a colon is a qualifier and an operand. -/
theorem colonless_or_qualified (s : String) :
    Colonless s ∨ ∃ q operand, s = q ++ ":" ++ operand ∧ Colonless q := by
  by_cases colon : ':' ∈ s.toList
  · obtain ⟨before, after, split, colonless⟩ := exists_firstColon colon
    refine .inr ⟨String.ofList before, String.ofList after, ?_, ?_⟩
    · rw [← String.toList_inj, split]
      simp
    · rwa [Colonless, String.toList_ofList]
  · exact .inl colon

theorem eq_colon_of_toLower (c : Char) : c.toLower = ':' → c = ':' := by
  refine Text.forall_char (P := fun c => c.toLower = ':' → c = ':') (by decide) ?_ c
  intro c high folded
  rwa [Text.toLower_of_high high] at folded

/-- Folding letters makes no colon and takes none away. -/
theorem colonless_asciiLower : Colonless (asciiLower s) ↔ Colonless s := by
  have folded : ':' ∈ (asciiLower s).toList ↔ ':' ∈ s.toList := by
    rw [asciiLower, String.toList_ofList, List.mem_map]
    constructor
    · rintro ⟨c, among, folds⟩
      rwa [← eq_colon_of_toLower c folds]
    · intro among
      exact ⟨':', among, rfl⟩
  exact not_congr folded

/-- A text that folds to a word without a colon has none itself. -/
theorem colonless_of_named {word : String} (named : asciiLower s = word)
    (plain : Colonless word) : Colonless s :=
  colonless_asciiLower.mp (named ▸ plain)

theorem not_colonless_qualified : ¬Colonless (q ++ ":" ++ operand) := by
  simp [Colonless]

/-! ### Reading -/

/-- Reading a text that says nothing, or `auto`. -/
theorem parse_unspecific (said : trim s = "" ∨ asciiLower (trim s) = "auto") :
    parse s = .ok any := by
  have unspecific : trim s = "" ∨ Text.sameIgnoringCase (trim s) "auto" = true := by
    rwa [Text.sameIgnoringCase_iff]
  unfold parse
  exact if_pos unspecific

theorem specific_of_ne (given : trim s ≠ "") (plain : asciiLower (trim s) ≠ "auto") :
    ¬(trim s = "" ∨ Text.sameIgnoringCase (trim s) "auto" = true) := by
  rw [Text.sameIgnoringCase_iff, not_or]
  exact ⟨given, plain⟩

/-- Reading a qualifier and an operand. -/
theorem parse_qualified (split : trim s = q ++ ":" ++ operand) (colonless : Colonless q) :
    parse s = ofParts (asciiLower q) operand := by
  have colon : ¬Colonless (trim s) := by
    rw [split]
    exact not_colonless_qualified
  have given : trim s ≠ "" := by
    intro empty
    rw [empty] at colon
    exact colon (by decide)
  have plain : asciiLower (trim s) ≠ "auto" :=
    fun named => colon (colonless_of_named named (by decide))
  have chars : (trim s).toList = q.toList ++ ':' :: operand.toList := by
    rw [split]
    simp
  unfold parse
  simp only [if_neg (specific_of_ne given plain), chars, splitColon?_append colonless,
    String.ofList_toList]

/-- Reading a qualifier and nothing else. -/
theorem parse_qualifier (split : trim s = q ++ ":") (colonless : Colonless q) :
    parse s = ofParts (asciiLower q) "" :=
  parse_qualified (split.trans String.append_empty.symm) colonless

/-- Reading a text without a colon. -/
theorem parse_unqualified (given : trim s ≠ "") (plain : asciiLower (trim s) ≠ "auto")
    (colonless : Colonless (trim s)) :
    parse s = .error (.invalidLocator ("missing qualifier: \"" ++ trim s ++ "\"")) := by
  unfold parse
  simp only [if_neg (specific_of_ne given plain), splitColon?_eq_none colonless]

/-- Reading a qualifier and an operand, with whatever blanks there are around them. -/
theorem parse_at_colon (colonless : Colonless q) :
    parse (q ++ ":" ++ operand) = ofParts (asciiLower (trimStart q)) (trimEnd operand) := by
  refine parse_qualified (Text.trim_at rfl rfl) fun colon => colonless ?_
  rw [trimStart, String.toList_ofList] at colon
  exact (List.dropWhile_sublist _).mem colon

/-! ### What is meant -/

theorem ofParts_bluetooth (named : q = "bluetooth" ∨ q = "bt") :
    ofParts q operand = if operand = "" then
        .error (.invalidLocator "bluetooth locator needs an address")
      else .ok (bluetooth operand) := by
  rcases named with rfl | rfl
  · rfl
  · rfl

theorem ofParts_unknown (strange : q ∉ ["usb", "bluetooth", "bt", "serial"]) :
    ofParts q operand = .error (.invalidLocator
      ("unknown qualifier \"" ++ q ++ "\". Use usb:, bluetooth: or serial:")) := by
  simp only [List.mem_cons, List.not_mem_nil, or_false, not_or] at strange
  obtain ⟨usb, bluetooth, bt, serial⟩ := strange
  rw [ofParts, if_neg usb, if_neg (not_or.mpr ⟨bluetooth, bt⟩), if_neg serial]

/-- A qualifier that names a bus has no colon. -/
theorem colonless_bluetooth (named : asciiLower q = "bluetooth" ∨ asciiLower q = "bt") :
    Colonless q :=
  named.elim (colonless_of_named · (by decide)) (colonless_of_named · (by decide))

/-- A text with a meaning is read so. -/
theorem Denotes.parse_eq (means : Denotes (trim s) locator) : parse s = .ok locator := by
  generalize split : trim s = body at means
  cases means with
  | nothing => exact parse_unspecific (.inl split)
  | auto named => exact parse_unspecific (.inr (split ▸ named))
  | bus named =>
    rw [parse_qualifier split (colonless_of_named named (by decide)), named]
    rfl
  | usb named given =>
    rw [parse_qualified split (colonless_of_named named (by decide)), named]
    exact congrArg (fun serial => Except.ok (Locator.usb serial)) (if_neg given)
  | bluetooth named given =>
    rw [parse_qualified split (colonless_bluetooth named), ofParts_bluetooth named, if_neg given]
  | serial named given =>
    rw [parse_qualified split (colonless_of_named named (by decide)), named]
    exact if_neg given

/-- A text without a meaning is refused so. -/
theorem Misspelt.parse_eq (wrong : Misspelt (trim s) fault) : parse s = .error fault := by
  generalize split : trim s = body at wrong
  cases wrong with
  | unqualified given plain colonless =>
    subst split
    exact parse_unqualified given plain colonless
  | unknown colonless strange =>
    rw [parse_qualified split colonless, ofParts_unknown strange]
  | noAddress named =>
    rw [parse_qualifier split (colonless_bluetooth named), ofParts_bluetooth named, if_pos rfl]
  | noPath named =>
    rw [parse_qualifier split (colonless_of_named named (by decide)), named]
    rfl

/-- With a qualifier and an operand a text has a meaning or is misspelt. -/
theorem qualified_denotes_or_misspelt (colonless : Colonless q) :
    (∃ locator, Denotes (q ++ ":" ++ operand) locator)
      ∨ ∃ fault, Misspelt (q ++ ":" ++ operand) fault := by
  by_cases strange : asciiLower q ∉ ["usb", "bluetooth", "bt", "serial"]
  · exact .inr ⟨_, .unknown colonless strange⟩
  have known : asciiLower q = "usb" ∨ (asciiLower q = "bluetooth" ∨ asciiLower q = "bt")
      ∨ asciiLower q = "serial" := by
    simpa [or_assoc] using Decidable.not_not.mp strange
  by_cases given : operand = ""
  · rw [given, String.append_empty]
    rcases known with named | named | named
    · exact .inl ⟨_, .bus named⟩
    · exact .inr ⟨_, .noAddress named⟩
    · exact .inr ⟨_, .noPath named⟩
  · rcases known with named | named | named
    · exact .inl ⟨_, .usb named given⟩
    · exact .inl ⟨_, .bluetooth named given⟩
    · exact .inl ⟨_, .serial named given⟩

/-- **Every text has a meaning or is misspelt.** -/
theorem denotes_or_misspelt (body : String) :
    (∃ locator, Denotes body locator) ∨ ∃ fault, Misspelt body fault := by
  rcases colonless_or_qualified body with colonless | ⟨q, operand, rfl, colonless⟩
  · by_cases given : body = ""
    · rw [given]
      exact .inl ⟨_, .nothing⟩
    by_cases plain : asciiLower body = "auto"
    · exact .inl ⟨_, .auto plain⟩
    · exact .inr ⟨_, .unqualified given plain colonless⟩
  · exact qualified_denotes_or_misspelt colonless

/-- **Exactly the texts that mean a locator are read as it.** -/
theorem parse_eq_ok_iff_denotes : parse s = .ok locator ↔ Denotes (trim s) locator := by
  refine ⟨fun read => ?_, Denotes.parse_eq⟩
  rcases denotes_or_misspelt (trim s) with ⟨meant, means⟩ | ⟨fault, wrong⟩
  · cases read.symm.trans means.parse_eq
    exact means
  · cases read.symm.trans wrong.parse_eq

/-- **Exactly the misspelt texts are refused.** -/
theorem parse_eq_error_iff_misspelt : parse s = .error fault ↔ Misspelt (trim s) fault := by
  refine ⟨fun read => ?_, Misspelt.parse_eq⟩
  rcases denotes_or_misspelt (trim s) with ⟨meant, means⟩ | ⟨said, wrong⟩
  · cases read.symm.trans means.parse_eq
  · cases read.symm.trans wrong.parse_eq
    exact wrong

/-! ### Spelling -/

theorem bare_auto : Bare "auto" :=
  Text.bare_of_ends rfl rfl rfl rfl

/-- **Differences in spelling that do not count make no difference.** -/
theorem Respelling.parse_eq (alike : Respelling s t) : parse s = parse t := by
  cases alike with
  | blanks leading trailing => rw [parse, parse, Text.trim_surrounded leading trailing]
  | auto named =>
    have folded : asciiLower (trim s) = "auto" := by
      rw [Text.asciiLower_trim, named, bare_auto.trim_eq]
    have usual : asciiLower (trim "auto") = "auto" := by
      rw [bare_auto.trim_eq]
      rfl
    rw [parse_unspecific (.inr folded), parse_unspecific (.inr usual)]
  | qualifier colonless same =>
    have colonless' := colonless_of_named same.symm (colonless_asciiLower.mpr colonless)
    rw [parse_at_colon colonless, parse_at_colon colonless', Text.asciiLower_trimStart, same,
      ← Text.asciiLower_trimStart]
  | bluetooth short long =>
    rw [parse_at_colon (colonless_of_named short (by decide)),
      parse_at_colon (colonless_of_named long (by decide)), Text.asciiLower_trimStart,
      Text.asciiLower_trimStart, short, long]
    rfl

/-! ### The text of a locator -/

/-- **The text of a locator that was read is bare, and means that locator.** -/
theorem Denotes.text (means : Denotes body locator) (bare : Bare body) :
    Bare locator.text ∧ Denotes locator.text locator := by
  cases means with
  | nothing => exact ⟨bare_auto, .auto rfl⟩
  | auto named => exact ⟨bare_auto, .auto rfl⟩
  | bus named => exact ⟨Text.bare_of_ends rfl rfl rfl rfl, .bus (q := "usb") rfl⟩
  | usb named given =>
    have word : Bare "usb:" := Text.bare_of_ends rfl rfl rfl rfl
    exact ⟨word.join (by decide) bare given, .usb (q := "usb") rfl given⟩
  | bluetooth named given =>
    have word : Bare "bluetooth:" := Text.bare_of_ends rfl rfl rfl rfl
    exact ⟨word.join (by decide) bare given,
      .bluetooth (q := "bluetooth") (.inl rfl) given⟩
  | serial named given =>
    have word : Bare "serial:" := Text.bare_of_ends rfl rfl rfl rfl
    exact ⟨word.join (by decide) bare given, .serial (q := "serial") rfl given⟩

/-- **The text of a locator that was read is read as that locator.** -/
theorem parse_text (read : parse s = .ok locator) : parse locator.text = .ok locator := by
  have ⟨bare, means⟩ := (parse_eq_ok_iff_denotes.mp read).text (Text.bare_trim s)
  refine parse_eq_ok_iff_denotes.mpr ?_
  rwa [bare.trim_eq]

/-- What there is to know of how a text is read. -/
structure Reading (s : String) : Prop where
  /-- It is read as a locator exactly if it means that locator, but for the blanks around it. -/
  understood : ∀ locator, parse s = .ok locator ↔ ∃ body, Trimmed s body ∧ Denotes body locator
  /-- It is refused exactly if it is misspelt, but for the blanks around it. -/
  refused : ∀ fault, parse s = .error fault ↔ ∃ body, Trimmed s body ∧ Misspelt body fault
  /-- What it is read as is written in a way that is read the same. -/
  readsBack : ∀ locator, parse s = .ok locator → parse locator.text = .ok locator
  /-- How it is spelled makes no difference otherwise. -/
  respelt : ∀ t, Respelling s t → parse s = parse t

/-- **Locators are read by their spelling**: exactly the texts that mean one are read, as the one
they mean, and all others are refused; neither blanks around the text nor the case of the qualifier
count, and the text of what was read is read as the same again. -/
theorem parse_reads (s : String) : Reading s where
  understood _ := by rw [Text.exists_trimmed_iff, parse_eq_ok_iff_denotes]
  refused _ := by rw [Text.exists_trimmed_iff, parse_eq_error_iff_misspelt]
  readsBack _ := parse_text
  respelt _ := Respelling.parse_eq

example : (parse " BT: 00:11 ").toOption = some (bluetooth " 00:11") := by decide +kernel

end BrailleDisplay.Locator
