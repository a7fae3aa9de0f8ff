import ToastRelay.Proofs.Web.Host
import ToastRelay.Proofs.Web.Target

/-!
# Addresses in plain form

An address is in plain form if nothing in it is left to the leniency with which addresses are
accepted: it has its two slashes, and each of its parts is made of the characters that the part may
hold in a request. What is accepted in that form is an absolute target as it stands. So it does not
matter that a channel is checked by one reading and sent to by another.
-/

namespace ToastRelay.Web
set_option autoImplicit false

theorem Uri.range_of_isAuthorityCharacter {c : Char} (h : isAuthorityCharacter c = true) :
    0x20 < c.toNat ∧ c.toNat < 0x80 := by
  rw [isAuthorityCharacter, Bool.or_eq_true, List.contains_iff_mem] at h
  rcases h with h | h
  · have hrange := Text.toNat_of_isAlphanum h
    omega
  · exact (List.all_iff_forall_prop (p := fun c => 0x20 < c.toNat ∧ c.toNat < 0x80)).mp
      (by decide) c h

/-- Blanks and controls are dropped only behind the last character that is neither. -/
theorem exists_significant_append {s : List Char} (hs : ∀ c ∈ s, 0x20 < c.toNat) (hne : s ≠ [])
    (t : List Char) : ∃ t', significant (s ++ t) = s ++ t' ∧ t'.Sublist t := by
  have hcontrol : ∀ c ∈ s, isControlOrBlank c = false := by
    simpa [isControlOrBlank] using hs
  have hfront : ∀ r t : List Char, (∀ c ∈ r, isControlOrBlank c = false) → r ≠ [] →
      (r ++ t).dropWhile isControlOrBlank = r ++ t := by
    intro r t hr hne
    cases r with
    | nil => exact absurd rfl hne
    | cons c r => simp [hr c List.mem_cons_self]
  have hback : ∃ t', (t.reverse ++ s.reverse).dropWhile isControlOrBlank = t' ++ s.reverse ∧
      t'.Sublist t.reverse := by
    rw [List.dropWhile_append]
    split
    · refine ⟨[], ?_, List.nil_sublist _⟩
      have hrev := hfront s.reverse [] (by simpa using hcontrol) (by simpa using hne)
      simpa using hrev
    · exact ⟨_, rfl, (List.dropWhile_suffix _).sublist⟩
  obtain ⟨t', ht', hsublist⟩ := hback
  refine ⟨t'.reverse.filter (!isSkipped ·), ?_, List.filter_sublist.trans ?_⟩
  swap
  · simpa using hsublist.reverse
  have hkept : s.filter (!isSkipped ·) = s := by
    rw [List.filter_eq_self]
    intro c hc
    have hrange := hs c hc
    have hskipped : c ∉ ['\t', '\n', '\r'] := by
      intro hmem
      have hall : ∀ c ∈ ['\t', '\n', '\r'], c.toNat ≤ 0x20 :=
        List.all_iff_forall_prop.mp (by decide)
      have hle := hall c hmem
      omega
    simpa [isSkipped, and_assoc] using hskipped
  rw [significant, hfront s t hcontrol hne, List.reverse_append, ht', List.reverse_append,
    List.reverse_reverse, List.filter_append, hkept]

theorem cutPort_append (host : List Char) (brackets : Bool) (s : List Char) :
    host.reverse ++ s = (cutPort host brackets s).1 ++
      match (cutPort host brackets s).2 with
      | none => []
      | some port => ':' :: port := by
  induction s generalizing host brackets with
  | nil => simp [cutPort]
  | cons c s ih =>
    rw [cutPort]
    split
    · next hcolon =>
      rw [Bool.and_eq_true, decide_eq_true_eq] at hcolon
      rw [hcolon.1]
    · rw [← ih, List.reverse_cons, List.append_assoc, List.singleton_append]

namespace Uri.Scan

variable {host : List Char}

theorem foldlM_host (hplain : ∀ c ∈ host, isAuthorityCharacter c = true ∧ c ≠ '@')
    (hne : host ≠ []) (h : isHost host = true) (behindAt : Bool) :
    ∃ b, host.foldlM push ⟨0, false, false, false, behindAt⟩ = .ok ⟨0, b, b, false, false⟩ := by
  have hpercent : '%' ∉ host := fun hmem => absurd (hplain _ hmem).1 (by decide)
  have hascii : ∀ c ∈ host, c.toNat < 0x80 := fun c hc =>
    (range_of_isAuthorityCharacter (hplain c hc).1).2
  rcases isHost_cases h hascii hpercent with ⟨address, rfl, haddress, hcolons⟩ | hname
  · have hmark : ∀ c ∈ address, c ∉ ['[', ']', '@'] := by
      intro c hc hmem
      have hnone : ∀ c ∈ ['[', ']', '@'], ¬ (Text.isHexDigit c = true ∨ c = ':' ∨ c = '.') :=
        List.all_iff_forall_prop.mp (by decide)
      exact hnone c hmem (haddress c hc)
    have hread : address.foldlM push ⟨0, true, false, false, false⟩ =
        .ok ⟨address.count ':', true, false, false, false⟩ := by
      rw [foldlM_push (fun c hc => (hplain c (by simp [hc])).1) hmark (by simpa [mostColons] using hcolons)]
      simp
    refine ⟨true, ?_⟩
    rw [List.foldlM_cons]
    change (address ++ [']']).foldlM push ⟨0, true, false, false, false⟩ = _
    rw [List.foldlM_append, hread]
    rfl
  · have hcolons : host.count ':' = 0 :=
      List.count_eq_zero.mpr fun hmem => hname _ hmem (by decide)
    refine ⟨false, ?_⟩
    rw [foldlM_push (fun c hc => (hplain c hc).1) _ (by simp [hcolons])]
    · cases host with
      | nil => exact absurd rfl hne
      | cons c host => simp [hcolons]
    · intro c hc hmem
      simp only [List.mem_cons, List.not_mem_nil, or_false] at hmem
      rcases hmem with rfl | rfl | rfl
      · exact hname _ hc (by decide)
      · exact hname _ hc (by decide)
      · exact (hplain _ hc).2 rfl

theorem foldlM_port {port : List Char} (h : isPort port = true) (b : Bool) :
    (':' :: port).foldlM push ⟨0, b, b, false, false⟩ = .ok ⟨1, b, b, false, false⟩ := by
  rw [isPort, Bool.and_eq_true] at h
  have hdigit : ∀ c ∈ port, c.isDigit = true := List.all_eq_true.mp h.1
  have hmark : ∀ c ∈ port, c ∉ [':', '[', ']', '@'] := by
    intro c hc hmem
    have hnone : ∀ c ∈ [':', '[', ']', '@'], c.isDigit = false :=
      List.all_iff_forall_prop.mp (by decide)
    have hc' := hdigit c hc
    rw [hnone c hmem] at hc'
    cases hc'
  have hcolons : port.count ':' = 0 := List.count_eq_zero.mpr fun hmem => hmark _ hmem (by decide)
  rw [List.foldlM_cons]
  change port.foldlM push ⟨1, b, b, false, false⟩ = _
  rw [foldlM_push _ _ (by simp [hcolons, mostColons])]
  · simp [hcolons]
  · intro c hc
    simp [isAuthorityCharacter, Char.isAlphanum, hdigit c hc]
  · intro c hc hmem
    exact hmark c hc (List.mem_cons_of_mem _ hmem)

end Uri.Scan

/-- The parts of an address in plain form. -/
structure PlainAddress where
  scheme : List Char
  scheme_web : scheme.map Char.toLower ∈ [['h', 't', 't', 'p'], ['h', 't', 't', 'p', 's']]
  user : Option (List Char)
  user_plain : ∀ u ∈ user, ∀ c ∈ u,
    (Uri.isAuthorityCharacter c = true ∨ c = '%') ∧ c ≠ '[' ∧ c ≠ ']'
  user_colons : ∀ u ∈ user, u.count ':' ≤ Uri.mostColons
  host : List Char
  host_plain : ∀ c ∈ host, Uri.isAuthorityCharacter c = true ∧ c ≠ '@'
  host_ne_nil : host ≠ []
  path : List Char
  path_plain : ∀ c ∈ path, Uri.isPathCharacter c = true
  path_rooted : path = [] ∨ path.head? = some '/'
  query : Option (List Char)
  query_plain : ∀ q ∈ query, ∀ c ∈ q, Uri.isQueryCharacter c = true
  fragment : Option (List Char)

namespace PlainAddress

variable (a : PlainAddress)

def front : List Char :=
  match a.user with
  | none => []
  | some u => u ++ ['@']

def authority : List Char := a.front ++ a.host

def tail : List Char :=
  a.path ++ ((match a.query with
    | none => []
    | some q => '?' :: q) ++ match a.fragment with
    | none => []
    | some f => '#' :: f)

def text : String := String.ofList (a.scheme ++ [':', '/', '/'] ++ (a.authority ++ a.tail))

section Parts
variable {a}

theorem range_of_mem_authority {c : Char} (hc : c ∈ a.authority) :
    (Uri.isAuthorityCharacter c = true ∨ c = '%') ∧ 0x20 < c.toNat ∧ c.toNat < 0x80 := by
  have hcharacter : Uri.isAuthorityCharacter c = true ∨ c = '%' := by
    rw [authority] at hc
    rcases List.mem_append.mp hc with hc | hc
    · rw [front] at hc
      split at hc
      · cases hc
      · next u hu =>
        rcases List.mem_append.mp hc with hc | hc
        · exact (a.user_plain u hu c hc).1
        · obtain rfl : c = '@' := List.mem_singleton.mp hc
          decide
    · exact Or.inl (a.host_plain c hc).1
  refine ⟨hcharacter, ?_⟩
  rcases hcharacter with hc | rfl
  · exact Uri.range_of_isAuthorityCharacter hc
  · decide

theorem authority_ne_nil : a.authority ≠ [] := by
  rw [authority]
  exact fun h => a.host_ne_nil (List.append_eq_nil_iff.mp h).2

theorem endsAuthority_of_mem {c : Char} (hc : c ∈ a.authority) :
    Uri.endsAuthority c = false ∧ Web.endsAuthority c = false := by
  have hcharacter := (range_of_mem_authority hc).1
  have hnone : ∀ c ∈ ['/', '?', '#', '\\'], ¬ (Uri.isAuthorityCharacter c = true ∨ c = '%') :=
    List.all_iff_forall_prop.mp (by decide)
  have hmark : c ∉ ['/', '?', '#', '\\'] := fun hmem => hnone c hmem hcharacter
  simp only [List.mem_cons, List.not_mem_nil, or_false, not_or] at hmark
  simp [Uri.endsAuthority, Web.endsAuthority, isSlash, hmark]

theorem endsAuthority_of_mark {c : Char} (hc : c ∈ ['/', '?', '#']) :
    Uri.endsAuthority c = true ∧ Web.endsAuthority c = true := by
  have hall : ∀ c ∈ ['/', '?', '#'], (Uri.endsAuthority c && Web.endsAuthority c) = true :=
    List.all_iff_forall_prop.mp (by decide)
  simpa using hall c hc

theorem mem_of_head?_tail {c : Char} (hc : c ∈ a.tail.head?) : c ∈ ['/', '?', '#'] := by
  rw [tail, List.head?_append] at hc
  rcases a.path_rooted with hpath | hpath
  · rw [hpath] at hc
    cases hquery : a.query <;> cases hfragment : a.fragment <;>
      simp [hquery, hfragment] at hc <;> simp [← hc]
  · rw [hpath] at hc
    obtain rfl : '/' = c := Option.some.inj hc
    decide

theorem withoutUser_authority : withoutUser a.authority = a.host := by
  have hfront : ∀ front : List Char, (∀ c ∈ front.reverse.head?, c = '@') →
      withoutUser (front ++ a.host) = a.host := by
    intro front hat
    rw [withoutUser, List.reverse_append, takeWhile_append_of_stop, List.reverse_reverse]
    · intro c hc
      simpa using (a.host_plain c (List.mem_reverse.mp hc)).2
    · intro c hc
      simpa using hat c hc
  rw [authority, front]
  apply hfront
  split
  · intro c hc
    cases hc
  · intro c hc
    simpa [eq_comm] using hc

theorem isAlpha_of_mem_scheme {c : Char} (hc : c ∈ a.scheme) : c.isAlpha = true := by
  have hlower : c.toLower.isAlpha = true := by
    have hmem : c.toLower ∈ a.scheme.map Char.toLower := List.mem_map_of_mem hc
    have hall : ∀ s ∈ [['h', 't', 't', 'p'], ['h', 't', 't', 'p', 's']],
        s.all Char.isAlpha = true := by decide
    exact List.all_eq_true.mp (hall _ a.scheme_web) _ hmem
  by_cases hupper : c.isUpper = true
  · exact Bool.or_eq_true_iff.mpr (Or.inl hupper)
  · have hsame : c.toLower = c := by
      unfold Char.toLower
      exact dif_neg fun h => hupper (decide_eq_true h)
    rwa [hsame] at hlower

/-- The lenient reading, too, comes to the authority and knows where it ends. -/
theorem significant_text :
    ∃ tail', significant a.text.toList = a.scheme ++ [':', '/', '/'] ++ (a.authority ++ tail') ∧
      ∀ c ∈ tail'.head?, c ∈ ['/', '?', '#'] := by
  have hplain : ∀ c ∈ a.scheme ++ [':', '/', '/'] ++ a.authority, 0x20 < c.toNat := by
    intro c hc
    simp only [List.mem_append] at hc
    rcases hc with (hc | hc) | hc
    · have halnum : c.isAlphanum = true := by simp [Char.isAlphanum, isAlpha_of_mem_scheme hc]
      have hrange := Text.toNat_of_isAlphanum halnum
      omega
    · exact (List.all_iff_forall_prop (p := fun c => 0x20 < c.toNat)).mp (by decide) c hc
    · exact (range_of_mem_authority hc).2.1
  rw [text, String.toList_ofList, ← List.append_assoc]
  cases htail : a.tail with
  | nil =>
    obtain ⟨t', ht', hsublist⟩ := exists_significant_append hplain (by simp) []
    obtain rfl : t' = [] := List.sublist_nil.mp hsublist
    exact ⟨[], by rw [ht', List.append_assoc], fun c hc => absurd hc (by simp)⟩
  | cons c rest =>
    have hc : c ∈ ['/', '?', '#'] := mem_of_head?_tail (a := a) (by simp [htail])
    have hplain' : ∀ d ∈ a.scheme ++ [':', '/', '/'] ++ a.authority ++ [c], 0x20 < d.toNat := by
      intro d hd
      rcases List.mem_append.mp hd with hd | hd
      · exact hplain d hd
      · have hall : ∀ c ∈ ['/', '?', '#'], 0x20 < c.toNat :=
          List.all_iff_forall_prop.mp (by decide)
        rw [List.mem_singleton.mp hd]
        exact hall c hc
    obtain ⟨t', ht', -⟩ := exists_significant_append hplain' (by simp) rest
    refine ⟨c :: t', ?_, ?_⟩
    · simpa using ht'
    · intro d hd
      obtain rfl : c = d := Option.some.inj hd
      exact hc

theorem scheme?_append (rest : List Char) :
    Web.scheme? (a.scheme ++ ':' :: rest) = some (a.scheme.map Char.toLower, rest) := by
  have hcharacters : ∀ c ∈ a.scheme, isSchemeCharacter c = true := fun c hc => by
    simp [isSchemeCharacter, Char.isAlphanum, isAlpha_of_mem_scheme hc]
  have htake : (a.scheme ++ ':' :: rest).takeWhile isSchemeCharacter = a.scheme :=
    takeWhile_append_of_stop hcharacters fun c hc => by
      obtain rfl : ':' = c := Option.some.inj hc
      decide
  have hdrop : (a.scheme ++ ':' :: rest).dropWhile isSchemeCharacter = ':' :: rest := by
    rw [List.dropWhile_append_of_pos hcharacters, List.dropWhile_cons, if_neg (by decide)]
  have hfirst : (a.scheme ++ ':' :: rest).head?.any Char.isAlpha = true := by
    cases hscheme : a.scheme with
    | nil => exact absurd a.scheme_web (by simp [hscheme])
    | cons c s => exact isAlpha_of_mem_scheme (a := a) (by simp [hscheme])
  rw [Web.scheme?, hdrop]
  simp only [hfirst, if_pos, htake]

theorem dropWhile_isSlash (t : List Char) :
    ('/' :: '/' :: (a.authority ++ t)).dropWhile isSlash = a.authority ++ t := by
  have hslash : isSlash '/' = true := by decide
  cases hauthority : a.authority with
  | nil => exact absurd hauthority authority_ne_nil
  | cons c r =>
    have hc := (endsAuthority_of_mem (a := a) (c := c) (by simp [hauthority])).2
    rw [Web.endsAuthority, Bool.or_eq_false_iff, Bool.or_eq_false_iff] at hc
    rw [List.cons_append, List.dropWhile_cons, if_pos hslash, List.dropWhile_cons, if_pos hslash,
      List.dropWhile_cons, hc.1.1, if_neg Bool.false_ne_true]

theorem takeWhile_authority {t : List Char} (ht : ∀ c ∈ t.head?, c ∈ ['/', '?', '#']) :
    (a.authority ++ t).takeWhile (!Web.endsAuthority ·) = a.authority := by
  apply takeWhile_append_of_stop
  · intro c hc
    simp [(endsAuthority_of_mem hc).2]
  · intro c hc
    simp [(endsAuthority_of_mark (ht c hc)).2]

/-- What the lenient reading finds in an address in plain form. -/
theorem host_of_isWebAddress (h : isWebAddress a.text = true) :
    ∃ host port, a.host = host ++ (match port with
        | none => []
        | some port => ':' :: port) ∧
      host ≠ [] ∧ isHost host = true ∧ port.all isPort = true := by
  obtain ⟨tail', hsignificant, hhead⟩ := a.significant_text
  have hscheme : Web.scheme? (a.scheme ++ ([':', '/', '/'] ++ (a.authority ++ tail'))) =
      some (a.scheme.map Char.toLower, '/' :: '/' :: (a.authority ++ tail')) := a.scheme?_append _
  rw [isWebAddress, hsignificant, List.append_assoc, hscheme] at h
  simp only [dropWhile_isSlash, takeWhile_authority hhead, withoutUser_authority,
    Bool.and_eq_true] at h
  obtain ⟨-, ⟨hne, hhost⟩, hport⟩ := h
  exact ⟨_, _, cutPort_append [] false a.host, by simpa using hne, hhost, hport⟩

theorem foldlM_front :
    a.front.foldlM Uri.Scan.push Uri.Scan.start =
      .ok ⟨0, false, false, false, a.user.isSome⟩ := by
  rw [front]
  cases hu : a.user with
  | none => rfl
  | some u =>
    have hplain := a.user_plain u hu
    obtain ⟨b, hb, hopened, hclosed⟩ := Uri.Scan.foldlM_push_user (s := u) (a := Uri.Scan.start)
      (fun c hc => (hplain c hc).1) (fun c hc => by simp [(hplain c hc).2])
      (by simpa [Uri.Scan.start] using a.user_colons u hu)
    change (u ++ ['@']).foldlM Uri.Scan.push Uri.Scan.start = _
    rw [List.foldlM_append, hb]
    change Except.ok (⟨0, b.opened, b.closed, false, true⟩ : Uri.Scan) = _
    rw [hopened, hclosed]
    rfl

theorem splitAuthority_text (h : isWebAddress a.text = true) :
    Uri.splitAuthority (a.authority ++ a.tail) = .ok (a.authority, a.tail) := by
  obtain ⟨host, port, hsplit, hne, hhost, hport⟩ := host_of_isWebAddress h
  have hplain : ∀ c ∈ host, Uri.isAuthorityCharacter c = true ∧ c ≠ '@' := fun c hc =>
    a.host_plain c (by rw [hsplit]; exact List.mem_append_left _ hc)
  obtain ⟨b, hb⟩ := Uri.Scan.foldlM_host hplain hne hhost a.user.isSome
  have hends : ∀ c ∈ a.authority, Uri.endsAuthority c = false := fun c hc =>
    (endsAuthority_of_mem hc).1
  have hstop : ∀ c ∈ a.tail.head?, Uri.endsAuthority c = true := fun c hc =>
    (endsAuthority_of_mark (mem_of_head?_tail hc)).1
  cases port with
  | none =>
    apply Uri.splitAuthority_append hends hstop (b := ⟨0, b, b, false, false⟩)
    · rw [authority, hsplit, List.append_nil, List.foldlM_append, foldlM_front]
      exact hb
    all_goals simp
  | some port =>
    apply Uri.splitAuthority_append hends hstop (b := ⟨1, b, b, false, false⟩)
    · rw [authority, hsplit, List.foldlM_append, foldlM_front]
      change (host ++ ':' :: port).foldlM Uri.Scan.push _ = _
      rw [List.foldlM_append, hb]
      exact Uri.Scan.foldlM_port hport b
    all_goals simp

theorem scheme?_text :
    ∃ scheme, Uri.scheme? a.text.toList = .ok (some (scheme, a.authority ++ a.tail)) := by
  have hweb : a.scheme.map Char.toLower = ['h', 't', 't', 'p'] ∨
      a.scheme.map Char.toLower = ['h', 't', 't', 'p', 's'] := by
    simpa using a.scheme_web
  have hfront : ∀ n, (a.text.toList.take n).map Char.toLower =
      (a.scheme.map Char.toLower ++
        ':' :: '/' :: '/' :: (a.authority ++ a.tail).map Char.toLower).take n := by
    intro n
    rw [text, String.toList_ofList, List.map_take, List.map_append, List.map_append,
      List.append_assoc]
    rfl
  have hrest : ∀ n, a.scheme.length + 3 = n → a.text.toList.drop n = a.authority ++ a.tail := by
    intro n hn
    rw [text, String.toList_ofList]
    exact List.drop_left' (by simpa using hn)
  rw [Uri.scheme?]
  simp only [hfront]
  rcases hweb with hhttp | hhttps
  · have hlength : a.scheme.length = 4 := by simpa using congrArg List.length hhttp
    rw [hhttp, hrest 7 (by omega)]
    exact ⟨_, rfl⟩
  · have hlength : a.scheme.length = 5 := by simpa using congrArg List.length hhttps
    rw [hhttps, hrest 8 (by omega)]
    exact ⟨_, rfl⟩

theorem pathAndQuery_tail : ∃ path query, Uri.pathAndQuery a.tail = .ok (path, query) := by
  have hrest : ∀ fragment : Option (List Char), (match fragment with
      | none => []
      | some f => '#' :: f) = [] ∨ ∃ f, (match fragment with
      | none => []
      | some f => '#' :: f) = '#' :: f := by
    intro fragment
    cases fragment with
    | none => exact Or.inl rfl
    | some f => exact Or.inr ⟨f, rfl⟩
  obtain ⟨hnone, hsome⟩ := Uri.pathAndQuery_append a.path_plain (hrest a.fragment)
  rw [tail]
  cases hq : a.query with
  | none => exact ⟨_, _, hnone⟩
  | some q => exact ⟨_, _, hsome q (a.query_plain q hq)⟩

/-- An address in plain form that is accepted is an absolute target, unless it is too long. -/
theorem isSome_absolute? (h : isWebAddress a.text = true)
    (hshort : a.text.utf8ByteSize ≤ Uri.longest) : (Uri.absolute? a.text).isSome := by
  obtain ⟨scheme, hscheme⟩ := a.scheme?_text
  obtain ⟨path, query, htail⟩ := a.pathAndQuery_tail
  exact Uri.isSome_absolute? hshort hscheme (splitAuthority_text h) authority_ne_nil htail

end Parts

end PlainAddress

end ToastRelay.Web
