import QueryWarden.Connections.Redaction
import QueryWarden.Proofs.Text.Replacement

/-!
# What redaction hides

The password of a URL is hidden up to its first `@`, and the value of a password key up to its first
semicolon. What stands behind is shown, so two texts that differ in a password redact to the same
text whenever the passwords agree from there on.
-/

namespace QueryWarden.Connections

open QueryWarden.Text

/-! ## Password pairs -/

/-- The text with the values of its password keys masked. -/
def maskPairs (text : List Char) : List Char :=
  passwordPair.replaceAll (fun head => head ++ mask) text

theorem redactText_eq (text : List Char) : redactText text = maskPairs (maskUrl text) := rfl

/-- The words that a password key is written with. -/
def passwordWords : List (List Char) := ["password".toList, "pwd".toList]

theorem isPlainWord_of_mem_passwordWords {word : List Char} (hword : word ∈ passwordWords) :
    IsPlainWord word := by
  simp only [passwordWords, List.mem_cons, List.not_mem_nil, or_false] at hword
  rcases hword with rfl | rfl <;> decide

/-- A password key in any case. -/
def IsPasswordKey (key : List Char) : Prop :=
  key.map simpleFold ∈ passwordWords

instance (key : List Char) : Decidable (IsPasswordKey key) :=
  inferInstanceAs (Decidable (key.map simpleFold ∈ passwordWords))

/-- A text of blanks only, or nothing. -/
def IsGap (gap : List Char) : Prop :=
  ∀ c ∈ gap, isBlank c = true

/-- A password key with its equals sign and the blanks around both: all of a pair but its value. -/
def IsPasswordHead (head : List Char) : Prop :=
  ∃ outer key inner after, head = outer ++ (key ++ (inner ++ '=' :: after)) ∧ IsGap outer ∧
    IsPasswordKey key ∧ IsGap inner ∧ IsGap after

theorem IsPasswordHead.equals_mem {head : List Char} (hhead : IsPasswordHead head) :
    '=' ∈ head := by
  obtain ⟨outer, key, inner, after, rfl, -⟩ := hhead
  simp

theorem passwordPair_eq (before : Option Char) (text : List Char) :
    passwordPair before text =
      if atWordStart before then
        (dropAnyWord passwordWords text).bind fun rest =>
          (dropChar '=' (dropBlanks rest)).map fun value =>
            (text.take (text.length - (dropBlanks value).length),
              (dropBlanks value).dropWhile (· != ';'))
      else none := by
  unfold passwordPair
  cases hstart : atWordStart before with
  | false => rfl
  | true =>
      change (dropAnyWord passwordWords text).bind _ = _
      cases dropAnyWord passwordWords text with
      | none => rfl
      | some rest =>
          change (dropChar '=' (dropBlanks rest)).bind _ = _
          cases hvalue : dropChar '=' (dropBlanks rest) <;> simp [hvalue]

theorem length_le_of_dropAnyWord {text rest : List Char}
    (hdrop : dropAnyWord passwordWords text = some rest) : rest.length ≤ text.length := by
  obtain ⟨word, hword, hdrop⟩ := List.exists_of_findSome?_eq_some hdrop
  have hascii := (isPlainWord_of_mem_passwordWords hword).ascii
  obtain ⟨spelled, rfl, -⟩ := (dropWord_eq_some_iff hascii text rest).mp hdrop
  simp

/-- No part of a password pair reaches past a semicolon. -/
theorem passwordPair_stopsAt : passwordPair.StopsAt ';' where
  nil before := by
    rw [passwordPair_eq]
    split <;> rfl
  append before text rest := by
    have hblank : isBlank ';' = false := by decide
    rw [passwordPair_eq, passwordPair_eq, dropAnyWord_append_cons
      (fun _ => isPlainWord_of_mem_passwordWords) (by decide)]
    split
    · cases hword : dropAnyWord passwordWords text with
      | none => rfl
      | some afterWord =>
          simp only [Option.map_some, Option.bind_some]
          rw [dropBlanks, dropWhile_append_cons hblank, ← dropBlanks,
            dropChar_append_cons (by decide)]
          cases hvalue : dropChar '=' (dropBlanks afterWord) with
          | none => rfl
          | some value =>
              -- The value is no longer than the text, so both texts are cut at the same place.
              have hlength : (dropBlanks value).length ≤ text.length := by
                have hfirst := length_dropBlanks_le value
                have hsecond : value.length ≤ (dropBlanks afterWord).length := by
                  simp [dropChar_eq_some_iff.mp hvalue]
                have hthird := length_dropBlanks_le afterWord
                have hfourth := length_le_of_dropAnyWord hword
                omega
              simp only [Option.map_some]
              rw [dropBlanks, dropWhile_append_cons hblank, ← dropBlanks,
                dropWhile_append_cons (by decide)]
              have hcut : (text ++ ';' :: rest).length - (dropBlanks value ++ ';' :: rest).length =
                  text.length - (dropBlanks value).length := by
                simp only [List.length_append]
                omega
              rw [hcut, List.take_append_of_le_length (Nat.sub_le _ _)]
    · rfl

theorem passwordPair_of_atWordStart {before : Option Char} (hstart : atWordStart before = true)
    (text : List Char) : passwordPair before text = passwordPair none text := by
  rw [passwordPair_eq, passwordPair_eq, if_pos hstart]
  rfl

theorem maskPairs_append_semicolon (front rest : List Char) :
    maskPairs (front ++ ';' :: rest) = maskPairs front ++ ';' :: maskPairs rest := by
  have hword : isWordChar ';' = false := by decide
  refine passwordPair_stopsAt.replaceAll_append (fun text => ?_) _ front rest
  exact passwordPair_of_atWordStart (by simp [atWordStart, hword]) text

theorem maskPairs_nil : maskPairs [] = [] := rfl

/-- What stands behind a pair, or what stands in front of one, is masked on its own. -/
theorem maskPairs_append_tail (front : List Char) {tail : List Char}
    (htail : tail = [] ∨ tail.head? = some ';') :
    maskPairs (front ++ tail) = maskPairs front ++ maskPairs tail := by
  have hsemicolon := maskPairs_append_semicolon []
  simp only [List.nil_append, maskPairs_nil] at hsemicolon
  rcases htail with rfl | htail
  · simp [maskPairs_nil]
  · obtain ⟨rest, rfl⟩ := List.head?_eq_some_iff.mp htail
    rw [maskPairs_append_semicolon, hsemicolon]

theorem maskPairs_front_append {front : List Char}
    (hfront : front = [] ∨ front.getLast? = some ';') (rest : List Char) :
    maskPairs (front ++ rest) = maskPairs front ++ maskPairs rest := by
  rcases hfront with rfl | hfront
  · rfl
  · obtain ⟨earlier, rfl⟩ := List.getLast?_eq_some_iff.mp hfront
    rw [List.append_assoc, List.singleton_append, maskPairs_append_semicolon,
      maskPairs_append_semicolon, maskPairs_nil]
    simp

/-- Blanks stay as they are. -/
theorem maskPairs_gap_append {gap : List Char} (hgap : IsGap gap) (text : List Char) :
    maskPairs (gap ++ text) = gap ++ maskPairs text := by
  induction gap with
  | nil => rfl
  | cons c gap ih =>
      obtain ⟨hblank, hgap⟩ := List.forall_mem_cons.mp hgap
      have hword := isWordChar_of_isBlank hblank
      have hnone : passwordPair none (c :: (gap ++ text)) = none := by
        have hdrop := dropAnyWord_append_cons (fun _ => isPlainWord_of_mem_passwordWords) hword []
          (gap ++ text)
        rw [List.nil_append] at hdrop
        rw [passwordPair_eq, hdrop]
        rfl
      rw [List.cons_append, maskPairs, Pattern.replaceAll_cons_of_none hnone]
      · exact congrArg (c :: ·) (ih hgap)
      · exact passwordPair_of_atWordStart (by simp [atWordStart, hword])

/-- Of the two words at most one stands at the front of a text, so a key is read whole. -/
theorem dropAnyWord_key_append {key : List Char} (hkey : IsPasswordKey key) (rest : List Char) :
    dropAnyWord passwordWords (key ++ rest) = some rest := by
  have hdrop : dropWord (key.map simpleFold) (key ++ rest) = some rest := by
    rw [dropWord_eq_some_iff (isPlainWord_of_mem_passwordWords hkey).ascii]
    exact ⟨key, rfl, rfl⟩
  simp only [IsPasswordKey, passwordWords, List.mem_cons, List.not_mem_nil, or_false] at hkey
  simp only [dropAnyWord, passwordWords, List.findSome?_cons, List.findSome?_nil]
  rcases hkey with hkey | hkey
  · rw [← hkey, hdrop]
  · cases hother : dropWord "password".toList (key ++ rest) with
    | none => rw [← hkey, hdrop]
    | some left =>
        -- A key that spells the second word does not begin with the first.
        have hascii := (isPlainWord_of_mem_passwordWords (List.mem_cons_self)).ascii
        obtain ⟨spelled, htext, hspelled⟩ := (dropWord_eq_some_iff hascii _ _).mp hother
        have hfold := congrArg (List.map simpleFold) htext
        rw [List.map_append, List.map_append, hkey, hspelled] at hfold
        simp at hfold

theorem dropBlanks_gap_append {gap text : List Char} (hgap : IsGap gap)
    (htext : ∀ c ∈ text.head?, isBlank c = false) : dropBlanks (gap ++ text) = text := by
  rw [dropBlanks, List.dropWhile_append_of_pos hgap]
  cases text with
  | nil => rfl
  | cons c text => rw [List.dropWhile_cons, htext c rfl, if_neg Bool.false_ne_true]

/-- A key, its equals sign and what stands behind them are a match; the value ends at the first
semicolon. -/
theorem passwordPair_key_append {key inner after value : List Char} (hkey : IsPasswordKey key)
    (hinner : IsGap inner) (hafter : IsGap after)
    (hvalue : ∀ c ∈ value.head?, isBlank c = false) :
    passwordPair none (key ++ (inner ++ '=' :: after) ++ value) =
      some (key ++ (inner ++ '=' :: after), value.dropWhile (· != ';')) := by
  have hequals : ∀ c ∈ ('=' :: (after ++ value)).head?, isBlank c = false := by
    rintro c ⟨⟩
    decide
  have hassoc : key ++ (inner ++ '=' :: after) ++ value =
      key ++ (inner ++ '=' :: (after ++ value)) := by simp
  have hstart : atWordStart none = true := rfl
  rw [passwordPair_eq, if_pos hstart, hassoc, dropAnyWord_key_append hkey, Option.bind_some,
    dropBlanks_gap_append hinner hequals, dropChar, if_pos rfl, Option.map_some,
    dropBlanks_gap_append hafter hvalue, ← hassoc, List.length_append, Nat.add_sub_cancel,
    List.take_left]

/-- A value that holds no semicolon is masked whole. -/
theorem maskPairs_head_append {head value : List Char} (hhead : IsPasswordHead head)
    (hvalue : ∀ c ∈ value.head?, isBlank c = false) (hclear : ';' ∉ value) :
    maskPairs (head ++ value) = head ++ mask := by
  obtain ⟨outer, key, inner, after, rfl, houter, hkey, hinner, hafter⟩ := hhead
  have hmatch := passwordPair_key_append hkey hinner hafter hvalue
  rw [dropWhile_ne_of_not_mem hclear] at hmatch
  rw [List.append_assoc, maskPairs_gap_append houter, maskPairs,
    Pattern.replaceAll_of_match_all (by simp) hmatch]
  simp

/-- The value of a pair is masked up to its first semicolon, and what stands from there on is masked
as a text of its own. -/
theorem maskPairs_pair {front head value back : List Char}
    (hfront : front = [] ∨ front.getLast? = some ';') (hhead : IsPasswordHead head)
    (hvalue : ∀ c ∈ value.head?, isBlank c = false) (hback : back = [] ∨ back.head? = some ';') :
    maskPairs (front ++ (head ++ value ++ back)) =
      maskPairs front ++ (head ++ mask ++ maskPairs (value.dropWhile (· != ';') ++ back)) := by
  have hsplit : head ++ value ++ back =
      head ++ value.takeWhile (· != ';') ++ (value.dropWhile (· != ';') ++ back) := by
    rw [List.append_assoc, List.append_assoc, ← List.append_assoc (value.takeWhile _),
      List.takeWhile_append_dropWhile]
  have hclear : ';' ∉ value.takeWhile (· != ';') := by
    intro hmem
    simpa using List.mem_takeWhile_imp hmem
  have hstart : ∀ c ∈ (value.takeWhile (· != ';')).head?, isBlank c = false := by
    intro c hc
    cases value with
    | nil => simp at hc
    | cons d value =>
        rw [List.takeWhile_cons] at hc
        split at hc
        · exact hvalue c hc
        · simp at hc
  have htail : value.dropWhile (· != ';') ++ back = [] ∨
      (value.dropWhile (· != ';') ++ back).head? = some ';' := by
    have hhead := List.head?_dropWhile_not (· != ';') value
    cases hdrop : value.dropWhile (· != ';') with
    | nil => simpa [hdrop] using hback
    | cons c rest =>
        rw [hdrop] at hhead
        right
        simpa using hhead
  rw [maskPairs_front_append hfront, hsplit, maskPairs_append_tail _ htail,
    maskPairs_head_append hhead hstart hclear]

/-! ## URLs -/

/-- The scheme of a URL: a letter, then letters, digits and other word characters, `+`, `.` or
`-`. -/
def IsScheme (scheme : List Char) : Prop :=
  (∃ c ∈ scheme.head?, c.isAlpha = true) ∧ ∀ c ∈ scheme, isSchemeChar c = true

/-- The text begins with the scheme of a URL and its mark. -/
def BeginsWithScheme (text : List Char) : Prop :=
  ∃ scheme rest, text = scheme ++ ("://".toList ++ rest) ∧ IsScheme scheme

/-- A URL in front of the password, with the colon. -/
def urlFront (scheme user : List Char) : List Char :=
  scheme ++ ("://".toList ++ (user ++ [':']))

/-- A URL with a user name and a password; `rest` is the host and what follows it. -/
def url (scheme user password rest : List Char) : List Char :=
  urlFront scheme user ++ (password ++ '@' :: rest)

theorem urlHead?_eq (text : List Char) :
    urlHead? text =
      if text.head?.any Char.isAlpha then
        (dropExact "://".toList (text.dropWhile isSchemeChar)).bind fun afterMark =>
          (dropChar ':' (afterMark.dropWhile isUserChar)).map fun rest =>
            (text.take (text.length - rest.length), rest)
      else none := by
  unfold urlHead?
  cases halpha : text.head?.any Char.isAlpha with
  | false => rfl
  | true =>
      change (dropExact "://".toList (text.dropWhile isSchemeChar)).bind _ = _
      cases dropExact "://".toList (text.dropWhile isSchemeChar) with
      | none => rfl
      | some afterMark =>
          change (dropChar ':' (afterMark.dropWhile isUserChar)).bind _ = _
          cases hrest : dropChar ':' (afterMark.dropWhile isUserChar) <;> simp [hrest]

theorem urlHead?_urlFront_append {scheme user : List Char} (hscheme : IsScheme scheme)
    (huser : ∀ c ∈ user, isUserChar c = true) (rest : List Char) :
    urlHead? (urlFront scheme user ++ rest) = some (urlFront scheme user, rest) := by
  obtain ⟨⟨c, hc, halpha⟩, hall⟩ := hscheme
  have hmark : "://".toList = ':' :: ['/', '/'] := by simp
  have hhead : (urlFront scheme user ++ rest).head?.any Char.isAlpha = true := by
    obtain ⟨scheme, rfl⟩ := List.head?_eq_some_iff.mp hc
    simpa [urlFront] using halpha
  have hdrop : (urlFront scheme user ++ rest).dropWhile isSchemeChar =
      "://".toList ++ (user ++ ':' :: rest) := by
    have hcolon : isSchemeChar ':' = false := by decide
    have hassoc : urlFront scheme user ++ rest =
        scheme ++ ("://".toList ++ (user ++ ':' :: rest)) := by simp [urlFront]
    rw [hassoc, hmark, List.cons_append, dropWhile_append_of_forall hall hcolon]
  rw [urlHead?_eq, if_pos hhead, hdrop, dropExact_eq_some_iff.mpr rfl, Option.bind_some,
    dropWhile_append_of_forall huser (by decide), dropChar, if_pos rfl, Option.map_some,
    List.length_append, Nat.add_sub_cancel, List.take_left]

/-- Of a password everything in front of its first `@` is masked. -/
theorem maskUrl_url {scheme user : List Char} (hscheme : IsScheme scheme)
    (huser : ∀ c ∈ user, isUserChar c = true) (password rest : List Char) :
    maskUrl (url scheme user password rest) =
      urlFront scheme user ++ mask ++ (password.dropWhile (· != '@') ++ '@' :: rest) := by
  rw [maskUrl, url, urlHead?_urlFront_append hscheme huser]
  have htail : (password ++ '@' :: rest).dropWhile (· != '@') =
      password.dropWhile (· != '@') ++ '@' :: rest := dropWhile_append_cons (by decide) _ _
  split
  next found hfound =>
    obtain ⟨rfl, rfl⟩ := Prod.mk.inj (Option.some.inj hfound)
    rw [htail]
    split
    next hnil => simp at hnil
    next => rfl
  next hnone => cases hnone

theorem maskUrl_of_not_beginsWithScheme {text : List Char} (hscheme : ¬ BeginsWithScheme text) :
    maskUrl text = text := by
  have hnone : urlHead? text = none := by
    rw [urlHead?_eq]
    split
    next hhead =>
      cases hmark : dropExact "://".toList (text.dropWhile isSchemeChar) with
      | none => rfl
      | some afterMark =>
          refine absurd ⟨text.takeWhile isSchemeChar, afterMark, ?_, ?_, ?_⟩ hscheme
          · rw [← dropExact_eq_some_iff.mp hmark, List.takeWhile_append_dropWhile]
          · cases text with
            | nil => simp at hhead
            | cons c text =>
                have halpha : c.isAlpha = true := by simpa using hhead
                have hword : isSchemeChar c = true := by
                  simp [isSchemeChar, isWordChar_of_isAlphanum, Char.isAlphanum, halpha]
                exact ⟨c, by simp [hword], halpha⟩
          · exact fun c hc => List.mem_takeWhile_imp hc
    next => rfl
  rw [maskUrl, hnone]

/-! ## Texts with two passwords -/

/-- Somewhere in the text a password key has a value. -/
def HasPasswordHead (text : List Char) : Prop :=
  ∃ head, IsPasswordHead head ∧ head <:+: text

theorem not_hasPasswordHead_of_notMem {text : List Char} (hequals : '=' ∉ text) :
    ¬ HasPasswordHead text := by
  rintro ⟨head, hhead, hwithin⟩
  exact hequals (hwithin.subset hhead.equals_mem)

/-- What is matched is a head with what follows it. -/
theorem exists_isPasswordHead_of_match {before : Option Char} {text : List Char}
    {found : List Char × List Char} (hmatch : passwordPair before text = some found) :
    ∃ head value, text = head ++ value ∧ IsPasswordHead head := by
  rw [passwordPair_eq] at hmatch
  split at hmatch
  · obtain ⟨rest, hword, hmatch⟩ := Option.bind_eq_some_iff.mp hmatch
    obtain ⟨value, hequals, -⟩ := Option.map_eq_some_iff.mp hmatch
    obtain ⟨word, hword, hdrop⟩ := List.exists_of_findSome?_eq_some hword
    have hascii := (isPlainWord_of_mem_passwordWords hword).ascii
    obtain ⟨key, rfl, hkey⟩ := (dropWord_eq_some_iff hascii text rest).mp hdrop
    have hgap : IsGap (rest.takeWhile isBlank) := fun c hc => List.mem_takeWhile_imp hc
    have hrest : rest = rest.takeWhile isBlank ++ '=' :: value := by
      rw [← dropChar_eq_some_iff.mp hequals, dropBlanks, List.takeWhile_append_dropWhile]
    refine ⟨key ++ (rest.takeWhile isBlank ++ ['=']), value, ?_, ?_⟩
    · rw [List.append_assoc, List.append_assoc, List.singleton_append, ← hrest]
    · exact ⟨[], key, _, [], rfl, List.forall_mem_nil _, by rwa [IsPasswordKey, hkey], hgap,
        List.forall_mem_nil _⟩
  · cases hmatch

theorem maskPairs_of_not_hasPasswordHead {text : List Char} (hclear : ¬ HasPasswordHead text) :
    maskPairs text = text := by
  refine Pattern.replaceAll_of_none fun before front back htext => ?_
  refine Option.eq_none_iff_forall_ne_some.mpr fun found hmatch => hclear ?_
  obtain ⟨head, value, rfl, hhead⟩ := exists_isPasswordHead_of_match hmatch
  exact ⟨head, hhead, front, value, by rw [htext, List.append_assoc]⟩

theorem IsPasswordHead.star_notMem {head : List Char} (hhead : IsPasswordHead head) :
    '*' ∉ head := by
  have hblank : isBlank '*' = false := by decide
  have hword : isWordChar '*' = false := by decide
  have hgap : ∀ gap, IsGap gap → '*' ∉ gap := by
    intro gap hgap hmem
    exact Bool.false_ne_true (hblank.symm.trans (hgap '*' hmem))
  obtain ⟨outer, key, inner, after, rfl, houter, hkey, hinner, hafter⟩ := hhead
  have hclear : '*' ∉ key := by
    intro hmem
    have hplain := (isPlainWord_of_mem_passwordWords hkey).2 _ (List.mem_map_of_mem hmem)
    rw [isWordChar_simpleFold, hword] at hplain
    exact Bool.false_ne_true hplain.2
  simp [hgap outer houter, hclear, hgap inner hinner, hgap after hafter]

/-- The stars of a mask part a text in two. -/
theorem hasPasswordHead_of_mask {front back : List Char}
    (hhead : HasPasswordHead (front ++ mask ++ back)) :
    HasPasswordHead front ∨ HasPasswordHead back := by
  obtain ⟨head, hhead, hwithin⟩ := hhead
  -- A head holds no star, so it reaches over neither the first star nor the last.
  have hstar := hhead.star_notMem
  have htext : front ++ mask ++ back = front ++ '*' :: ("**".toList ++ '*' :: back) := by
    simp [mask]
  rw [htext] at hwithin
  rcases infix_of_notMem hstar hwithin with hfront | hwithin
  · exact .inl ⟨head, hhead, hfront⟩
  · rcases infix_of_notMem hstar hwithin with hstars | hback
    · have hequals := hstars.subset hhead.equals_mem
      simp at hequals
    · exact .inr ⟨head, hhead, hback⟩

/-- What is shown of a URL with a password. -/
theorem redact_url {scheme user : List Char} (hscheme : IsScheme scheme)
    (huser : ∀ c ∈ user, isUserChar c = true) (password rest : List Char) :
    redact (String.ofList (url scheme user password rest)) = String.ofList
      (maskPairs (urlFront scheme user ++ mask ++
        (password.dropWhile (· != '@') ++ '@' :: rest))) := by
  rw [redact, String.toList_ofList, redactText_eq, maskUrl_url hscheme huser]

/-- What is shown of a URL depends on its password only from the first `@` of the password on, and
where no password key has a value it depends on all of that: a password with an `@` is not hidden
whole. -/
theorem redact_url_agrees {scheme user : List Char} (hscheme : IsScheme scheme)
    (huser : ∀ c ∈ user, isUserChar c = true) (rest first second : List Char) :
    (first.dropWhile (· != '@') = second.dropWhile (· != '@') →
      redact (String.ofList (url scheme user first rest)) =
        redact (String.ofList (url scheme user second rest))) ∧
    (¬ HasPasswordHead (url scheme user first rest) →
      ¬ HasPasswordHead (url scheme user second rest) →
      redact (String.ofList (url scheme user first rest)) =
        redact (String.ofList (url scheme user second rest)) →
      first.dropWhile (· != '@') = second.dropWhile (· != '@')) := by
  rw [redact_url hscheme huser, redact_url hscheme huser]
  refine ⟨fun hshown => by rw [hshown], fun hfirst hsecond heq => ?_⟩
  have hclear : ∀ password, ¬ HasPasswordHead (url scheme user password rest) →
      ¬ HasPasswordHead
        (urlFront scheme user ++ mask ++ (password.dropWhile (· != '@') ++ '@' :: rest)) := by
    intro password hpassword hshown
    refine hpassword ?_
    rcases hasPasswordHead_of_mask hshown with ⟨head, hhead, hwithin⟩ | ⟨head, hhead, hwithin⟩
    · exact ⟨head, hhead, hwithin.trans (List.prefix_append _ _).isInfix⟩
    · have hsuffix : password.dropWhile (· != '@') ++ '@' :: rest <:+ password ++ '@' :: rest :=
        ⟨password.takeWhile (· != '@'), by
          rw [← List.append_assoc, List.takeWhile_append_dropWhile]⟩
      exact ⟨head, hhead, hwithin.trans (hsuffix.trans (List.suffix_append _ _)).isInfix⟩
  rw [maskPairs_of_not_hasPasswordHead (hclear first hfirst),
    maskPairs_of_not_hasPasswordHead (hclear second hsecond), String.ofList_inj] at heq
  exact List.append_cancel_right (List.append_cancel_left heq)

/-- Two passwords without an `@` are hidden alike, and one with an `@` is not hidden as one without
is. -/
theorem redact_url_hunter2 :
    redact (String.ofList (url "postgres".toList "app".toList "hunter2".toList "db/x".toList)) =
        redact (String.ofList
          (url "postgres".toList "app".toList "s3:cret".toList "db/x".toList)) ∧
      redact (String.ofList (url "postgres".toList "app".toList "hunter2".toList "db/x".toList)) ≠
        redact (String.ofList
          (url "postgres".toList "app".toList "hunter@2".toList "db/x".toList)) := by
  have hscheme : IsScheme "postgres".toList :=
    ⟨⟨'p', by simp, by decide⟩, List.all_eq_true.mp (by decide +kernel)⟩
  have huser : ∀ c ∈ "app".toList, isUserChar c = true := List.all_eq_true.mp (by decide +kernel)
  refine ⟨(redact_url_agrees hscheme huser "db/x".toList "hunter2".toList "s3:cret".toList).1
    (by decide), fun hsame => ?_⟩
  have hshown := (redact_url_agrees hscheme huser "db/x".toList "hunter2".toList
    "hunter@2".toList).2 (not_hasPasswordHead_of_notMem (by simp [url, urlFront]))
    (not_hasPasswordHead_of_notMem (by simp [url, urlFront])) hsame
  simp at hshown

/-- The rest of a password behind its first `@` is shown, so these two are not hidden alike. -/
theorem redact_url_shows_password :
    IsScheme "postgres".toList ∧ (∀ c ∈ "app".toList, isUserChar c = true) ∧
      redact (String.ofList
          (url "postgres".toList "app".toList "p@ss".toList "db.internal/reporting".toList)) ≠
        redact (String.ofList
          (url "postgres".toList "app".toList "pass".toList "db.internal/reporting".toList)) := by
  refine ⟨⟨⟨'p', by simp, by decide⟩, List.all_eq_true.mp (by decide +kernel)⟩,
    List.all_eq_true.mp (by decide +kernel), ?_⟩
  decide +kernel

/-- A value as a connection string writes it: plain, or wrapped in double quotes. -/
inductive IsPairValue : List Char → Prop where
  | plain {value : List Char} (hclear : ';' ∉ value ∧ '"' ∉ value ∧ '\'' ∉ value)
      (hhead : ∀ c ∈ value.head?, isBlank c = false)
      (hlast : ∀ c ∈ value.getLast?, isBlank c = false) : IsPairValue value
  | quoted {inner : List Char} (hinner : '"' ∉ inner) : IsPairValue ('"' :: (inner ++ ['"']))

theorem IsPairValue.isBlank_head {value : List Char} (hvalue : IsPairValue value) :
    ∀ c ∈ value.head?, isBlank c = false := by
  cases hvalue with
  | plain _ hhead _ => exact hhead
  | quoted _ =>
      rintro c ⟨⟩
      decide

/-- A scheme with its mark holds no equals sign, so it stands in front of the first one. -/
theorem beginsWithScheme_append_iff {front : List Char} (hequals : '=' ∈ front)
    (rest : List Char) : BeginsWithScheme (front ++ rest) ↔ BeginsWithScheme front := by
  constructor
  · rintro ⟨scheme, afterMark, htext, hscheme⟩
    have hclear : '=' ∉ scheme ++ "://".toList := by
      intro hmem
      rcases List.mem_append.mp hmem with hmem | hmem
      · exact absurd (hscheme.2 '=' hmem) (by decide)
      · simp at hmem
    rw [← List.append_assoc, List.append_eq_append_iff] at htext
    rcases htext with ⟨piece, hfront, -⟩ | ⟨piece, hfront, -⟩
    · rw [hfront] at hclear
      exact absurd (List.mem_append_left _ hequals) hclear
    · exact ⟨scheme, piece, by rw [hfront, List.append_assoc], hscheme⟩
  · rintro ⟨scheme, afterMark, rfl, hscheme⟩
    exact ⟨scheme, afterMark ++ rest, by simp, hscheme⟩

/-- What is shown of a pair with a password key, with the pairs in front of it and behind it. -/
theorem redact_pair {front head value back : List Char}
    (hfront : front = [] ∨ front.getLast? = some ';') (hhead : IsPasswordHead head)
    (hback : back = [] ∨ back.head? = some ';') (hvalue : IsPairValue value)
    (hscheme : ¬ BeginsWithScheme (front ++ head)) :
    redact (String.ofList (front ++ (head ++ value ++ back))) = String.ofList
      (maskPairs front ++ (head ++ mask ++ (maskPairs (value.dropWhile (· != ';')) ++
        maskPairs back))) := by
  have hequals : '=' ∈ front ++ head := List.mem_append_right _ hhead.equals_mem
  have htext : front ++ (head ++ value ++ back) = front ++ head ++ (value ++ back) := by simp
  have hurl : ¬ BeginsWithScheme (front ++ (head ++ value ++ back)) := by
    rwa [htext, beginsWithScheme_append_iff hequals]
  rw [redact, String.toList_ofList, redactText_eq, maskUrl_of_not_beginsWithScheme hurl,
    maskPairs_pair hfront hhead hvalue.isBlank_head hback, maskPairs_append_tail _ hback]

/-- What is shown of a connection string depends on the value of a password key only from the first
semicolon of the value on, and but for the passwords in there it depends on all of that: a quoted
password with a semicolon is not hidden whole. -/
theorem redact_pair_agrees {front head back : List Char}
    (hfront : front = [] ∨ front.getLast? = some ';') (hhead : IsPasswordHead head)
    (hback : back = [] ∨ back.head? = some ';') {first second : List Char}
    (hfirst : IsPairValue first) (hsecond : IsPairValue second)
    (hscheme : ¬ BeginsWithScheme (front ++ (head ++ first ++ back))) :
    (redact (String.ofList (front ++ (head ++ first ++ back))) =
        redact (String.ofList (front ++ (head ++ second ++ back))) ↔
      maskPairs (first.dropWhile (· != ';')) = maskPairs (second.dropWhile (· != ';'))) ∧
    (';' ∉ first → ';' ∉ second →
      redact (String.ofList (front ++ (head ++ first ++ back))) =
        redact (String.ofList (front ++ (head ++ second ++ back)))) := by
  have hequals : '=' ∈ front ++ head := List.mem_append_right _ hhead.equals_mem
  have htext : front ++ (head ++ first ++ back) = front ++ head ++ (first ++ back) := by simp
  rw [htext, beginsWithScheme_append_iff hequals] at hscheme
  have hiff : redact (String.ofList (front ++ (head ++ first ++ back))) =
      redact (String.ofList (front ++ (head ++ second ++ back))) ↔
        maskPairs (first.dropWhile (· != ';')) = maskPairs (second.dropWhile (· != ';')) := by
    rw [redact_pair hfront hhead hback hfirst hscheme,
      redact_pair hfront hhead hback hsecond hscheme, String.ofList_inj,
      List.append_cancel_left_eq, List.append_cancel_left_eq, List.append_cancel_right_eq]
  refine ⟨hiff, fun hclear hother => hiff.mpr ?_⟩
  rw [dropWhile_ne_of_not_mem hclear, dropWhile_ne_of_not_mem hother]

theorem not_beginsWithScheme_of_not_mem {text : List Char} (hcolon : ':' ∉ text) :
    ¬ BeginsWithScheme text := by
  rintro ⟨scheme, rest, rfl, -⟩
  simp at hcolon

theorem isPasswordHead_of_isPasswordKey {key : List Char} (hkey : IsPasswordKey key) :
    IsPasswordHead (key ++ ['=']) :=
  ⟨[], key, [], [], rfl, nofun, hkey, nofun, nofun⟩

/-- Two passwords without a semicolon are hidden alike. -/
theorem redact_pair_hunter2_quoted :
    redact (String.ofList ("Server=.;".toList ++
        ("Password".toList ++ ['='] ++ "hunter2".toList ++ ";Encrypt=true".toList))) =
      redact (String.ofList ("Server=.;".toList ++
        ("Password".toList ++ ['='] ++ "\"x y\"".toList ++ ";Encrypt=true".toList))) := by
  have hhead : IsPasswordHead ("Password".toList ++ ['=']) :=
    isPasswordHead_of_isPasswordKey (by decide +kernel)
  have hfirst : IsPairValue "hunter2".toList :=
    .plain (by simp) (by simpa using by decide +kernel) (by simpa using by decide +kernel)
  have hsecond : IsPairValue "\"x y\"".toList := .quoted (by decide : '"' ∉ ['x', ' ', 'y'])
  have hscheme : ¬ BeginsWithScheme ("Server=.;".toList ++
      ("Password".toList ++ ['='] ++ "hunter2".toList ++ ";Encrypt=true".toList)) :=
    not_beginsWithScheme_of_not_mem (by simp)
  exact (redact_pair_agrees (.inr (by simp)) hhead (.inr (by simp)) hfirst hsecond hscheme).2
    (by simp) (by simp)

/-- The rest of a quoted password behind its first semicolon is shown, so these two are not hidden
alike. -/
theorem redact_pair_shows_password :
    IsPairValue "\"a;b\"".toList ∧ IsPairValue "\"a;c\"".toList ∧
      IsPasswordHead ("Password".toList ++ ['=']) ∧
      ¬ BeginsWithScheme ("Server=.;".toList ++
        ("Password".toList ++ ['='] ++ "\"a;b\"".toList ++ ";Encrypt=true".toList)) ∧
      redact (String.ofList ("Server=.;".toList ++
          ("Password".toList ++ ['='] ++ "\"a;b\"".toList ++ ";Encrypt=true".toList))) ≠
        redact (String.ofList ("Server=.;".toList ++
          ("Password".toList ++ ['='] ++ "\"a;c\"".toList ++ ";Encrypt=true".toList))) := by
  refine ⟨.quoted (by decide : '"' ∉ ['a', ';', 'b']), .quoted (by decide : '"' ∉ ['a', ';', 'c']),
    isPasswordHead_of_isPasswordKey (by decide +kernel), ?_, by decide +kernel⟩
  exact not_beginsWithScheme_of_not_mem (by simp)

end QueryWarden.Connections
