import BrowserReplay.Proofs.LowerCase
import BrowserReplay.Proofs.SortedStore
import BrowserReplay.Sensitive

/-!
# Sensitive hints

No context and no case hides a sensitive word. The words are looked for in the lower case of the
whole hint, where the form of a sigma depends on its neighbours, but no sigma stands in a sensitive
word (`isSensitive_iff_plain`). So a hint with a sensitive word in it, in any mix of cases, hides
every value beside it, also in a report.
-/

namespace BrowserReplay

variable {hint other : String}

/-! ### Words in a hint -/

/-- Two texts are the same but for the case of ASCII letters. -/
def SameButCase (s t : String) : Prop := s.toList.map Char.toLower = t.toList.map Char.toLower

instance (s t : String) : Decidable (SameButCase s t) :=
  inferInstanceAs (Decidable (s.toList.map Char.toLower = t.toList.map Char.toLower))

/-- A sensitive word stands in a hint, in any mix of cases. -/
inductive NamesCredential : String → Prop
  | intro {word spelling : String} (hword : word ∈ sensitiveWords)
      (hspelling : SameButCase spelling word) (before after : String) :
      NamesCredential (before ++ spelling ++ after)

/-- A hint is sensitive if its lower case contains a sensitive word. -/
theorem isSensitive_iff : isSensitive hint = true ↔
    ∃ word ∈ sensitiveWords, word.toList <:+: Text.lowercase hint.toList := by
  simp [isSensitive, Text.occursIn_iff]

theorem lacksSigma_sensitiveWords : ∀ word ∈ sensitiveWords, Text.LacksSigma word.toList := by
  have hall : sensitiveWords.all
      (fun word => word.toList.all fun c => c ≠ 'σ' && c ≠ 'ς') = true := by decide
  simpa [Text.LacksSigma] using hall

/-- For a sensitive word the letters of a hint count one by one. -/
theorem isSensitive_iff_plain : isSensitive hint = true ↔
    ∃ word ∈ sensitiveWords, word.toList <:+: hint.toList.flatMap Text.plainLower := by
  rw [isSensitive_iff]
  constructor
  · rintro ⟨word, hword, hinfix⟩
    exact ⟨word, hword, (Text.infix_lowercase_iff (lacksSigma_sensitiveWords word hword)).1 hinfix⟩
  · rintro ⟨word, hword, hinfix⟩
    exact ⟨word, hword, (Text.infix_lowercase_iff (lacksSigma_sensitiveWords word hword)).2 hinfix⟩

/-- A sensitive hint makes every hint sensitive that it is a part of. -/
theorem isSensitive_append (h : isSensitive hint = true) (before after : String) :
    isSensitive (before ++ hint ++ after) = true := by
  -- In the lower case itself the letters of the hint may change with what stands beside them.
  obtain ⟨word, hword, hinfix⟩ := isSensitive_iff_plain.1 h
  refine isSensitive_iff_plain.2 ⟨word, hword, hinfix.trans ?_⟩
  rw [String.toList_append, String.toList_append, List.flatMap_append, List.flatMap_append]
  exact List.infix_append _ _ _

/-- The case of ASCII letters makes no difference. -/
theorem isSensitive_congr (h : SameButCase hint other) : isSensitive hint = isSensitive other := by
  have hplain (s : String) : (s.toList.map Char.toLower).flatMap Text.plainLower =
      s.toList.flatMap Text.plainLower := by
    rw [List.flatMap_map]
    simp only [Text.plainLower_toLower]
  have hletters : hint.toList.flatMap Text.plainLower = other.toList.flatMap Text.plainLower := by
    rw [← hplain hint, h, hplain]
  rw [Bool.eq_iff_iff, isSensitive_iff_plain, isSensitive_iff_plain, hletters]

theorem isSensitive_word : ∀ word ∈ sensitiveWords, isSensitive word = true := by
  decide +kernel

theorem NamesCredential.isSensitive (h : NamesCredential hint) : isSensitive hint = true := by
  obtain ⟨hword, hspelling, before, after⟩ := h
  refine isSensitive_append ?_ before after
  rw [isSensitive_congr hspelling]
  exact isSensitive_word _ hword

/-! ### Values beside a hint -/

theorem maskSensitive_of_names (h : NamesCredential hint) {value : String} (hvalue : value ≠ "") :
    maskSensitive hint value = mask :=
  if_pos ⟨hvalue, h.isSensitive⟩

/-- The line for a variable shows the mask in place of its value. -/
theorem Report.variableLine_of_names {entry : String × VarValue} (h : NamesCredential entry.1)
    (hvalue : entry.2.display ≠ "") :
    variableLine true entry = "\n- " ++ entry.1 ++ " = " ++ mask := by
  rw [variableLine, maskIf, if_pos rfl, maskSensitive_of_names h hvalue]

/-- A report lists its variables line by line, after what it says without them. -/
theorem Report.text_of_entries {report : Report} {early late : List (String × VarValue)}
    {entry : String × VarValue} (h : report.vars.entries = early ++ entry :: late)
    (masked : Bool) :
    report.text masked = { report with vars := .empty : Report }.text masked ++ "\n\nVariables:" ++
      String.join (early.map (variableLine masked)) ++ variableLine masked entry ++
        String.join (late.map (variableLine masked)) := by
  have hsome : report.vars.isEmpty = false := by simp [Variables.isEmpty, h]
  have hlines : String.join (report.vars.entries.map (variableLine masked)) =
      String.join (early.map (variableLine masked)) ++ (variableLine masked entry ++
        String.join (late.map (variableLine masked))) := by
    rw [h, List.map_append, List.map_cons, String.join_append, String.join_cons]
  rw [text_eq_append, variablesText, hsome, if_neg Bool.false_ne_true, hlines]
  simp only [String.append_assoc]

/-- Neither context nor case hides a sensitive word. A hint is sensitive when a sensitive word stands
in its lower case, and that is put together letter by letter, a sigma by what stands around it. What
is sensitive stays so in every context and in every mix of ASCII cases. So a hint with a sensitive
word in it hides every value beside it, and a report that hides credentials has, in its list of
variables, the mask in place of the value. -/
theorem sensitive_words_cannot_be_hidden :
    (∀ hint : String, Text.Lowered hint.toList (Text.lowercase hint.toList) ∧
      (isSensitive hint = true ↔
        ∃ word ∈ sensitiveWords, word.toList <:+: Text.lowercase hint.toList)) ∧
      (∀ before hint after : String, isSensitive hint = true →
        isSensitive (before ++ hint ++ after) = true) ∧
      (∀ hint other : String, SameButCase hint other → isSensitive hint = isSensitive other) ∧
      ∀ hint : String, NamesCredential hint →
        (∀ value : String, value ≠ "" → maskSensitive hint value = mask) ∧
        ∀ (report : Report) early value late,
          report.vars.entries = early ++ (hint, value) :: late → value.display ≠ "" →
            report.text true = { report with vars := .empty : Report }.text true ++
              "\n\nVariables:" ++ String.join (early.map (Report.variableLine true)) ++
                ("\n- " ++ hint ++ " = " ++ mask) ++
                  String.join (late.map (Report.variableLine true)) := by
  refine ⟨fun hint => ⟨Text.lowered_lowercase hint.toList, isSensitive_iff⟩,
    fun before hint after h => isSensitive_append h before after,
    fun hint other => isSensitive_congr, fun hint hnames => ⟨fun value hvalue => ?_, ?_⟩⟩
  · exact maskSensitive_of_names hnames hvalue
  · intro report early value late hentries hvalue
    rw [Report.text_of_entries hentries, Report.variableLine_of_names hnames hvalue]

/-- A password stands between two sigmas. Their forms depend on it, and it is hidden all the same. -/
theorem password_between_sigmas_is_hidden :
    let hint := "ΑΣPassWordΣ"
    let report : Report := ⟨.completed, 1, ⟨1, 0, 0⟩, 0, .ofList [(hint, .text "hunter2")]⟩
    NamesCredential hint ∧ Text.lowercase hint.toList = "ασpasswordς".toList ∧
      maskSensitive hint "hunter2" = mask ∧
      report.text true = "Run completed.\nDispatched: 1 (ok: 1, abandoned: 0, no-op: 0)" ++
        "\n\nVariables:\n- ΑΣPassWordΣ = ********" := by
  intro hint report
  have hword : "password" ∈ sensitiveWords := by decide
  have hspelling : SameButCase "PassWord" "password" := by decide
  have hsplit : "ΑΣ" ++ "PassWord" ++ "Σ" = hint := by decide
  have hnames : NamesCredential hint := hsplit ▸ .intro hword hspelling "ΑΣ" "Σ"
  have hlower : Text.lowercase hint.toList = "ασpasswordς".toList := by decide +kernel
  obtain ⟨-, -, -, hhidden⟩ := sensitive_words_cannot_be_hidden
  obtain ⟨hvalues, hreports⟩ := hhidden hint hnames
  have htext := hreports report [] (.text "hunter2") [] rfl (by decide)
  exact ⟨hnames, hlower, hvalues "hunter2" (by decide), htext.trans (by decide +kernel)⟩

end BrowserReplay
