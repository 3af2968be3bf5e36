import MarkdownRender.Proofs.Unicode.Lowercase
import MarkdownRender.Proofs.Url.Embedding

/-!
# Bare forms are settled

Decoding may bring forth any code point: ampersands, percent signs, surrogates, and letters beyond
ASCII whose lower-case form is an ASCII letter. None of them is left in a bare form, since what does
not count is dropped before the rest is lowered. So there is nothing in a bare form for another
decoding to act on, and nothing to lower: `normalize` gives back every text of the code points that
bare forms are made of (`normalize_bare`), and all bare forms are made of them
(`mem_bareLetters_of_mem_reduce`).
-/

namespace MarkdownRender.Url

open CodePoint (ofChar asciiLower)
open Html (decodeReferences decodeReferences_literals)

/-- The code points that bare forms are made of. -/
def bareLetters : Text := "abcdefghijklmnopqrstuvwxyz0123456789_:"

/-! ### What is left of a text -/

theorem lt_of_isSchemeChar {c : CodePoint} (h : isSchemeChar c) : c.val < 0x80 := by
  have hcases : c.isWord = true ∨ c = ofChar ':' := by simpa [isSchemeChar] using h
  rcases hcases with hword | rfl
  · exact CodePoint.lt_of_isWord hword
  · decide

theorem asciiLower_mem_bareLetters {c : CodePoint} (h : isSchemeChar c) :
    c.asciiLower ∈ bareLetters := by
  have hascii : ∀ n : Fin 0x80, isSchemeChar ⟨n, by omega⟩ →
      asciiLower ⟨n, by omega⟩ ∈ bareLetters := by decide +kernel
  exact hascii ⟨c.val, lt_of_isSchemeChar h⟩ h

theorem mem_bareLetters_of_mem_reduce {text : Text} : ∀ c ∈ reduce text, c ∈ bareLetters := by
  intro c hc
  obtain ⟨d, hd, rfl⟩ := List.mem_map.mp hc
  exact asciiLower_mem_bareLetters (List.of_mem_filter hd)

/-- What counts in a text is ASCII, so lowering it by the rules of Unicode is lowering its letters. -/
theorem reduce_eq_lower (text : Text) : reduce text = Text.lower (text.filter isSchemeChar) :=
  (Text.lower_of_ascii fun _ hc => lt_of_isSchemeChar (List.of_mem_filter hc)).symm

/-! ### Bare forms as URLs -/

theorem reduce_bare {bare : Text} (h : ∀ c ∈ bare, c ∈ bareLetters) : reduce bare = bare := by
  have hletter : ∀ c ∈ bareLetters, isSchemeChar c ∧ c.asciiLower = c := by decide
  have hkept : bare.filter isSchemeChar = bare :=
    List.filter_eq_self.mpr fun c hc => (hletter c (h c hc)).1
  calc reduce bare = bare.map asciiLower := by rw [reduce, hkept]
    _ = bare.map id := List.map_congr_left fun c hc => (hletter c (h c hc)).2
    _ = bare := List.map_id bare

theorem normalize_bare {bare : Text} (h : ∀ c ∈ bare, c ∈ bareLetters) :
    normalize bare = .ok bare := by
  have hmark : ofChar '&' ∉ bareLetters ∧ ofChar '%' ∉ bareLetters := by decide
  have hplain : decodeReferences bare = bare := by
    apply decodeReferences_literals
    rintro c hc rfl
    exact hmark.1 (h _ hc)
  rw [normalize_of_notMem_percent, hplain, reduce_bare h]
  rw [hplain]
  exact fun hc => hmark.2 (h _ hc)

/-- **A bare form is its own bare form.** The bare form of a URL holds nothing but `a`-`z`, `0`-`9`,
`_` and `:`. It is the lower-case form, by all the rules of Unicode, of the ASCII word characters and
colons that the decoded URL holds, so no other code point has a part in it. Taken as a URL it is left
as it is, and judged as the URL was. -/
theorem bare_form_is_settled {url bare : Text} (h : normalize url = .ok bare) :
    (∀ c ∈ bare, c ∈ Text.ofString "abcdefghijklmnopqrstuvwxyz0123456789_:") ∧
      (∃ decoded, Percent.decode (decodeReferences url) = .ok decoded ∧
        bare = Text.lower (decoded.filter isSchemeChar)) ∧
      normalize bare = .ok bare ∧ (isSafe bare).value = (isSafe url).value := by
  obtain ⟨decoded, hdecoded, rfl⟩ := normalize_eq_ok_iff.mp h
  have hletters : ∀ c ∈ reduce decoded, c ∈ bareLetters := mem_bareLetters_of_mem_reduce
  have hsettled := normalize_bare hletters
  exact ⟨hletters, ⟨decoded, hdecoded, reduce_eq_lower decoded⟩, hsettled,
    isSafe_congr (hsettled.trans h.symm)⟩

/-- A Kelvin sign and a dotted capital I are dropped, although they are lowered to ASCII letters;
so are the ampersand and the percent sign of a reference and an escape that decoding writes. -/
theorem bare_form_is_settled_javascript :
    let url : Text := "&#x212A;Java&#37;C4%B0Script&colon;%2526%26amp;1"
    normalize url = .ok "javascript:26amp1" ∧
      normalize "javascript:26amp1" = .ok "javascript:26amp1" ∧
      (isSafe "javascript:26amp1").value = (isSafe url).value ∧ (isSafe url).value = false := by
  intro url
  have hurl : normalize url = .ok "javascript:26amp1" := by decide +kernel
  obtain ⟨-, -, hsettled, hverdict⟩ := bare_form_is_settled hurl
  exact ⟨hurl, hsettled, hverdict, by decide +kernel⟩

/-- The other order of dropping and lowering would keep them. -/
example : reduce "\u212Aİ" = [] ∧ reduce (Text.lower "\u212Aİ") = "ki" := by decide +kernel

end MarkdownRender.Url
