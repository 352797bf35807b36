import LineTemplate.Proofs.Drafts

/-!
# Lines and tokens

A row of tokens spells lines: a text token is a line by itself, and the words of a directive reach
up to the next end of a line. It spells them in one way only, and the tokens of a text spell the
lines of the text.
-/

namespace LineTemplate

open Token (AllWords)

/-- The tokens are those of the lines. -/
inductive Line.Spelled : List Line → List Token → Prop
  | nil : Spelled [] []
  | text {t : Token} {ls : List Line} {T : List Token} :
      t.kind = .text → Spelled ls T → Spelled (.text t.literal t.pos :: ls) (t :: T)
  | directive {ws : List Token} {n : Token} {ls : List Line} {T : List Token} :
      AllWords ws → n.kind = .endOfLine → Spelled ls T →
      Spelled (.directive ws n.pos :: ls) (ws ++ n :: T)

namespace Line

theorem Spelled.append {ls ms : List Line} {T U : List Token} (h : Spelled ls T)
    (hm : Spelled ms U) : Spelled (ls ++ ms) (T ++ U) := by
  induction h with
  | nil => exact hm
  | text hk _ ih => exact .text hk ih
  | directive hw hn _ ih =>
    rw [List.append_assoc]
    exact .directive hw hn ih

theorem words_unique {ws vs : List Token} {n m : Token} {T U : List Token}
    (hw : AllWords ws) (hv : AllWords vs) (hn : n.kind = .endOfLine) (hm : m.kind = .endOfLine)
    (h : ws ++ n :: T = vs ++ m :: U) : ws = vs ∧ n = m ∧ T = U := by
  induction ws generalizing vs with
  | nil =>
    cases vs with
    | nil =>
      cases h
      exact ⟨rfl, rfl, rfl⟩
    | cons v vs =>
      cases h
      have hk := (Token.allWords_cons.1 hv).1
      rw [hn] at hk
      cases hk
  | cons w ws ih =>
    cases vs with
    | nil =>
      cases h
      have hk := (Token.allWords_cons.1 hw).1
      rw [hm] at hk
      cases hk
    | cons v vs =>
      simp only [List.cons_append, List.cons.injEq] at h
      obtain ⟨rfl, h⟩ := h
      obtain ⟨rfl, he⟩ := ih (Token.allWords_cons.1 hw).2 (Token.allWords_cons.1 hv).2 h
      exact ⟨rfl, he⟩

theorem text_ne_words {t n : Token} {ws T U : List Token} (ht : t.kind = .text)
    (hn : n.kind = .endOfLine) (hw : AllWords ws) (h : t :: T = ws ++ n :: U) : False := by
  cases ws with
  | nil =>
    cases h
    rw [ht] at hn
    cases hn
  | cons w ws =>
    cases h
    have hk := (Token.allWords_cons.1 hw).1
    rw [ht] at hk
    cases hk

theorem Spelled.of_nil {ls : List Line} (h : Spelled ls []) : ls = [] := by
  generalize hT : ([] : List Token) = T at h
  cases h with
  | nil => rfl
  | text => cases hT
  | directive => exact absurd hT.symm (by simp)

theorem Spelled.of_text {ls : List Line} {t : Token} {T : List Token} (h : Spelled ls (t :: T))
    (ht : t.kind = .text) : ∃ more, ls = .text t.literal t.pos :: more ∧ Spelled more T := by
  generalize hT : t :: T = U at h
  cases h with
  | nil => cases hT
  | text _ hm =>
    cases hT
    exact ⟨_, rfl, hm⟩
  | directive hw hn _ => exact absurd hT fun h => text_ne_words ht hn hw h

theorem Spelled.of_directive {ls : List Line} {ws : List Token} {n : Token} {T : List Token}
    (h : Spelled ls (ws ++ n :: T)) (hw : AllWords ws) (hn : n.kind = .endOfLine) :
    ∃ more, ls = .directive ws n.pos :: more ∧ Spelled more T := by
  generalize hT : ws ++ n :: T = U at h
  cases h with
  | nil => exact absurd hT (by simp)
  | text ht _ => exact absurd hT.symm fun h => text_ne_words ht hn hw h
  | directive hv hm hmore =>
    obtain ⟨rfl, rfl, rfl⟩ := words_unique hw hv hn hm hT
    exact ⟨_, rfl, hmore⟩

theorem Spelled.unique {ls ms : List Line} {T : List Token} (h : Spelled ls T)
    (hm : Spelled ms T) : ls = ms := by
  induction h generalizing ms with
  | nil => exact hm.of_nil.symm
  | text hk _ ih =>
    obtain ⟨more, rfl, hmore⟩ := hm.of_text hk
    rw [ih hmore]
  | directive hw hn _ ih =>
    obtain ⟨more, rfl, hmore⟩ := hm.of_directive hw hn
    rw [ih hmore]

def Wordy : Line → Prop
  | .text _ _ => True
  | .directive ws _ => AllWords ws

theorem spelled_tokens {ls : List Line} (h : ∀ line ∈ ls, line.Wordy) :
    Spelled ls (ls.flatMap tokens) := by
  induction ls with
  | nil => exact .nil
  | cons line more ih =>
    have hm := ih fun l hl => h l (List.mem_cons_of_mem line hl)
    cases line with
    | text content pos => exact @Spelled.text ⟨.text, content, pos⟩ _ _ rfl hm
    | directive ws stop =>
      have hw : AllWords ws := h _ List.mem_cons_self
      rw [List.flatMap_cons, tokens, List.append_assoc]
      exact @Spelled.directive ws ⟨.endOfLine, "", stop⟩ _ _ hw rfl hm

theorem Wordy.kind_ne {line : Line} (h : line.Wordy) {t : Token} (ht : t ∈ line.tokens) :
    t.kind ≠ .endOfTemplate := by
  intro hk
  cases line with
  | text content pos =>
    cases List.mem_singleton.1 ht
    cases hk
  | directive ws stop =>
    rcases List.mem_append.1 ht with ht | ht
    · have hw := h t ht
      rw [hk] at hw
      cases hw
    · cases List.mem_singleton.1 ht
      cases hk

theorem Says.tokens {line : Line} {d : Directive} {pos : Position} {ts : List Token}
    (h : line.Says d pos ts) : d.Yields pos ts line.tokens := by
  cases h with
  | @mk w stop hk hp => exact @Directive.Yields.mk d pos ts w ⟨.endOfLine, "", stop⟩ hk hp rfl

theorem exists_of_yields {d : Directive} {pos : Position} {ts L : List Token}
    (h : d.Yields pos ts L) (hw : AllWords ts) :
    ∃ line, Spelled [line] L ∧ line.Says d pos ts := by
  cases h with
  | @mk w n hk hp hn =>
    have hall : AllWords (w :: ts) := Token.allWords_cons.2 ⟨by rw [hk]; rfl, hw⟩
    exact ⟨.directive (w :: ts) n.pos, .directive hall hn .nil, .mk hk hp⟩

end Line

/-! ### Lexemes are words -/

namespace Token

theorem isWord_symbolExtent (c : Char) (rest : List Char) :
    (symbolExtent c rest).1.isWord = true := by
  unfold symbolExtent
  split <;> rfl

theorem isWord_extent (c : Char) (rest : List Char) : (extent c rest).1.isWord = true := by
  unfold extent
  split
  · split
    · simp only [directiveKind]
      split <;> rfl
    · rfl
  · split
    · simp only [nameKind]
      split <;> rfl
    · split
      · rfl
      · split
        · split <;> rfl
        · split
          · simp only
            split <;> rfl
          · exact isWord_symbolExtent c rest

theorem isWord_scan (column : Nat) (cs : List Char) :
    ∀ l ∈ scan column cs, l.kind.isWord = true := by
  fun_induction scan column cs with
  | case1 => simp
  | case2 column c rest hc ih => exact ih
  | case3 column c rest hc kind n he ih =>
    intro l hl
    rcases List.mem_cons.1 hl with rfl | hl
    · have h := isWord_extent c rest
      rw [he] at h
      exact h
    · exact ih l hl

end Token

namespace Line

theorem wordy_ofChars (n : Nat) (cs : List Char) : (ofChars n cs).Wordy := by
  unfold ofChars
  split
  · intro t ht
    obtain ⟨l, hl, rfl⟩ := List.mem_map.1 ht
    exact Token.isWord_scan 0 _ l hl
  · trivial

theorem wordy_ofCut (n : Nat) (pieces : List (List Char)) :
    ∀ line ∈ ofCut n pieces, line.Wordy := by
  induction pieces generalizing n with
  | nil =>
    intro line hl
    cases hl
  | cons cs more ih =>
    intro line hl
    rcases List.mem_cons.1 hl with rfl | hl
    · exact wordy_ofChars n cs
    · exact ih (n + 1) line hl

end Line

end LineTemplate
