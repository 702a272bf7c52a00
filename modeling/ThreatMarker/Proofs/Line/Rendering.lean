import ThreatMarker.Proofs.Line.Combined
import ThreatMarker.Proofs.Text.Utf8
/-
# Writing a record as a line

A record does not have all parts of the line that it was read from: protocol, size and what follows the
agent are dropped.  Whatever is written in their place, the line is read as the record again.

What has to be shown is that no shorter timestamp, referer or agent becomes possible.  Where a timestamp
is continued by its mark and a request, the request ends before the mark does (`request_before_mark`):
blanks, the quote of a protocol and the digits of status and size leave no other way to lay it over the
mark.  So a shorter timestamp in the new line is one in the old line too, whose referer takes in all that
was exchanged; a shorter referer or agent ends before what follows the agent (`exists_shorter`).
-/

namespace ThreatMarker.Line

set_option autoImplicit false

open Unicode (isBlank isDecimalDigit trimBlank)
open Text (encodedSize encodedSize_append)

namespace Entry

/-! ## Words -/

/-- The first two cuts of a text at a character are the same. -/
theorem cut_forced {c : Char} {a a' b b' : List Char} (apart : c ∉ a) (apart' : c ∉ a')
    (joined : a ++ c :: b = a' ++ c :: b') : a = a' ∧ b = b' := by
  have others : ∀ {t : List Char}, c ∉ t → ∀ x ∈ t, (x != c) = true := fun apart x member =>
    bne_iff_ne.2 fun same => apart (same ▸ member)
  exact run_forced (others apart) (others apart') (by simp) (by simp) joined

theorem IsToken.not_mem {t : List Char} (token : IsToken t) : ' ' ∉ t := fun member => by
  have := token.2 ' ' member
  revert this
  decide

theorem IsToken.quoted_not_mem {t : List Char} (token : IsToken t) : ' ' ∉ t ++ ['"'] := by
  simp [token.not_mem]

theorem IsToken.not_mem_lineFeed {t : List Char} (token : IsToken t) : '\n' ∉ t := fun member => by
  have := token.2 '\n' member
  revert this
  decide

theorem IsNumber.not_mem {t : List Char} (number : IsNumber t) {c : Char}
    (other : isDecimalDigit c = false) : c ∉ t := fun member => by
  rw [number.2 c member] at other
  cases other

/-- A word and a blank before a mark of the timestamp: the word reaches into the mark and ends at the
blank of the mark, or it ends before the mark begins. -/
theorem word_before_mark {word rest u rest' : List Char} (apart : ' ' ∉ word)
    (joined : word ++ ' ' :: rest = u ++ ']' :: ' ' :: '"' :: rest') :
    word = u ++ [']'] ∧ rest = '"' :: rest' ∨
      ∃ v, u = word ++ ' ' :: v ∧ rest = v ++ ']' :: ' ' :: '"' :: rest' := by
  rcases List.append_eq_append_iff.1 joined with ⟨v, rfl, after⟩ | ⟨v, rfl, after⟩
  · rcases v with _ | ⟨c, v⟩
    · simp at after
    · simp only [List.cons_append, List.cons.injEq] at after
      obtain ⟨rfl, after⟩ := after
      exact .inr ⟨v, rfl, after⟩
  · rcases v with _ | ⟨c, _ | ⟨d, v⟩⟩
    · simp at after
    · simp only [List.cons_append, List.nil_append, List.cons.injEq, true_and] at after
      obtain ⟨rfl, rfl⟩ := after
      exact .inl ⟨rfl, rfl⟩
    · simp only [List.cons_append, List.cons.injEq] at after
      obtain ⟨-, rfl, -⟩ := after
      exact absurd (by simp) apart

/-! ## Requests -/

/-- What stands between timestamp and referer, before some text. -/
def request (e : Entry) (rest : List Char) : List Char :=
  e.method ++ ' ' :: (e.path ++ ' ' :: (e.protocol ++ '"' :: ' ' :: (e.status ++ ' ' ::
    (e.size ++ ' ' :: '"' :: rest))))

/-- What stands after the quote before the referer. -/
def quotes (e : Entry) : List Char :=
  e.referer ++ '"' :: ' ' :: '"' :: (e.agent ++ '"' :: e.tail)

theorem text_eq (e : Entry) :
    e.text = e.address ++ ' ' :: '-' :: ' ' :: '-' :: ' ' :: '[' ::
      (e.timestamp ++ ']' :: ' ' :: '"' :: e.request e.quotes) := by
  unfold text
  simp [afterAddress, afterTimestamp, afterProtocol, beforeReferer, afterReferer, request, quotes]

theorem not_mem_request {e : Entry} (wf : e.WellFormed) {rest : List Char} (inline : '\n' ∉ rest) :
    '\n' ∉ e.request rest := by
  have feed : isDecimalDigit '\n' = false := by decide
  simp [request, wf.method.not_mem_lineFeed, wf.path.not_mem_lineFeed, wf.protocol.not_mem_lineFeed,
    wf.status.not_mem feed, wf.size.not_mem feed, inline]

/-- Two requests before a text are the same. -/
theorem request_forced {g f : Entry} (wf : g.WellFormed) (wf' : f.WellFormed) {rest rest' : List Char}
    (joined : g.request rest = f.request rest') :
    g.method = f.method ∧ g.path = f.path ∧ g.protocol = f.protocol ∧ g.status = f.status ∧
      g.size = f.size ∧ rest = rest' := by
  have digit : isDecimalDigit ' ' = false := by decide
  unfold request at joined
  obtain ⟨method, joined⟩ := cut_forced wf.method.not_mem wf'.method.not_mem joined
  obtain ⟨path, joined⟩ := cut_forced wf.path.not_mem wf'.path.not_mem joined
  rw [List.append_cons g.protocol, List.append_cons f.protocol] at joined
  obtain ⟨protocol, joined⟩ :=
    cut_forced wf.protocol.quoted_not_mem wf'.protocol.quoted_not_mem joined
  obtain ⟨status, joined⟩ := cut_forced (wf.status.not_mem digit) (wf'.status.not_mem digit) joined
  obtain ⟨size, joined⟩ := cut_forced (wf.size.not_mem digit) (wf'.size.not_mem digit) joined
  exact ⟨method, path, List.append_cancel_right protocol, status, size, (List.cons.inj joined).2⟩

/-- **A request before a mark of the timestamp ends before the mark**, if another request follows the
mark.  A word that reached into the mark would put the words of the other request in the wrong places:
its protocol, which ends with a quote, where a number has to be. -/
theorem request_before_mark {g f : Entry} (wf : g.WellFormed) (wf' : f.WellFormed)
    {rest rest' u : List Char}
    (joined : g.request rest = u ++ ']' :: ' ' :: '"' :: f.request rest') :
    ∃ w, u = g.request w ∧ rest = w ++ ']' :: ' ' :: '"' :: f.request rest' := by
  have blank : isDecimalDigit ' ' = false := by decide
  have quote : isDecimalDigit '"' = false := by decide
  have bracket : isDecimalDigit ']' = false := by decide
  have quotedWord : ' ' ∉ '"' :: f.method := by simp [wf'.method.not_mem]
  rcases word_before_mark wf.method.not_mem joined with ⟨-, overlaid⟩ | ⟨u, rfl, afterMethod⟩
  · -- the path is the method of the other request, so the status is its protocol
    obtain ⟨-, overlaid⟩ := cut_forced wf.path.not_mem quotedWord overlaid
    rw [List.append_cons] at overlaid
    obtain ⟨-, overlaid⟩ := cut_forced wf.protocol.quoted_not_mem wf'.path.not_mem overlaid
    rw [List.append_cons f.protocol] at overlaid
    obtain ⟨status, -⟩ :=
      cut_forced (wf.status.not_mem blank) wf'.protocol.quoted_not_mem overlaid
    exact absurd (by simp [status]) (wf.status.not_mem quote)
  rcases word_before_mark wf.path.not_mem afterMethod with ⟨-, overlaid⟩ | ⟨u, rfl, afterPath⟩
  · -- the protocol is the method of the other request, so the size is its protocol
    rw [List.append_cons] at overlaid
    obtain ⟨-, overlaid⟩ := cut_forced wf.protocol.quoted_not_mem quotedWord overlaid
    obtain ⟨-, overlaid⟩ := cut_forced (wf.status.not_mem blank) wf'.path.not_mem overlaid
    rw [List.append_cons f.protocol] at overlaid
    obtain ⟨size, -⟩ := cut_forced (wf.size.not_mem blank) wf'.protocol.quoted_not_mem overlaid
    exact absurd (by simp [size]) (wf.size.not_mem quote)
  rw [List.append_cons] at afterPath
  rcases word_before_mark wf.protocol.quoted_not_mem afterPath with
    ⟨ends, -⟩ | ⟨u, rfl, afterProtocol⟩
  · have last := congrArg List.getLast? ends
    simp at last
  rcases word_before_mark (wf.status.not_mem blank) afterProtocol with
    ⟨ends, -⟩ | ⟨u, rfl, afterStatus⟩
  · exact absurd (by simp [ends]) (wf.status.not_mem bracket)
  rcases word_before_mark (wf.size.not_mem blank) afterStatus with ⟨ends, -⟩ | ⟨u, rfl, afterSize⟩
  · exact absurd (by simp [ends]) (wf.size.not_mem bracket)
  rcases u with _ | ⟨c, w⟩
  · simp at afterSize
  · simp only [List.cons_append, List.cons.injEq] at afterSize
    obtain ⟨rfl, rfl⟩ := afterSize
    exact ⟨w, by simp [request], rfl⟩

/-! ## Shorter decompositions -/

/-- Of two cuts of a text, the longer front begins with the shorter one. -/
theorem front_append {a b c d : List Char} (joined : a ++ b = c ++ d) (shorter : a.length < c.length) :
    ∃ x, x ≠ [] ∧ c = a ++ x ∧ b = x ++ d := by
  obtain ⟨x, rfl⟩ := List.prefix_of_prefix_length_le ⟨b, joined⟩ ⟨d, rfl⟩ (Nat.le_of_lt shorter)
  refine ⟨x, ?_, rfl, by simpa using joined⟩
  rintro rfl
  simp at shorter

/-- A mark of the timestamp does not overlap another one. -/
theorem mark_apart {x rest rest' : List Char} (nonempty : x ≠ [])
    (joined : ']' :: ' ' :: '"' :: rest = x ++ ']' :: ' ' :: '"' :: rest') :
    ∃ u, x = ']' :: ' ' :: '"' :: u ∧ rest = u ++ ']' :: ' ' :: '"' :: rest' := by
  rcases x with _ | ⟨a, _ | ⟨b, _ | ⟨c, u⟩⟩⟩
  · exact absurd rfl nonempty
  · simp at joined
  · simp at joined
  · simp only [List.cons_append, List.cons.injEq] at joined
    obtain ⟨rfl, rfl, rfl, rfl⟩ := joined
    exact ⟨u, rfl, rfl⟩

/-- Where the mark after a referer begins before another one, a quote ends the other one. -/
theorem quote_after_mark {x rest rest' : List Char} (nonempty : x ≠ []) (inline : IsInline x)
    (joined : '"' :: ' ' :: '"' :: rest = x ++ '"' :: ' ' :: '"' :: rest') :
    ∃ y, IsInline y ∧ x ++ ['"', ' ', '"'] = '"' :: ' ' :: '"' :: (y ++ ['"']) := by
  rcases x with _ | ⟨a, _ | ⟨b, _ | ⟨c, z⟩⟩⟩
  · exact absurd rfl nonempty
  · simp at joined
  · simp only [List.cons_append, List.nil_append, List.cons.injEq] at joined
    obtain ⟨rfl, rfl, -⟩ := joined
    exact ⟨[' '], by simp [IsInline], rfl⟩
  · simp only [List.cons_append, List.cons.injEq] at joined
    obtain ⟨rfl, rfl, rfl, -⟩ := joined
    refine ⟨z ++ ['"', ' '], ?_, by simp⟩
    simp only [IsInline, List.mem_cons, not_or] at inline
    simp [IsInline, inline.2.2.2]

/-- Other parts in the place of those that a record drops. -/
def exchange (e : Entry) (protocol size tail : List Char) : Entry := { e with protocol, size, tail }

theorem WellFormed.exchange {e : Entry} (wf : e.WellFormed) {protocol size : List Char}
    (token : IsToken protocol) (number : IsNumber size) (tail : List Char) :
    (e.exchange protocol size tail).WellFormed :=
  { wf with protocol := token, size := number }

/-- **A shorter decomposition of a line in which protocol, size and tail were exchanged is one of the
line as it was.** -/
theorem exists_shorter {e g : Entry} {protocol size tail : List Char} (wf : e.WellFormed)
    (wfg : g.WellFormed) (token : IsToken protocol) (number : IsNumber size)
    (same : g.text = (e.exchange protocol size tail).text)
    (shorter : g.Shorter (e.exchange protocol size tail)) :
    ∃ h : Entry, h.WellFormed ∧ h.text = e.text ∧ h.Shorter e := by
  have wff := wf.exchange token number tail
  rw [text_eq, text_eq] at same
  obtain ⟨address, same⟩ := cut_forced wfg.address.not_mem wff.address.not_mem same
  simp only [List.cons.injEq, true_and] at same
  rcases shorter with timestamp | ⟨timestamp, shorter⟩
  · -- the referer of the other line takes in all from the request to the old referer
    obtain ⟨x, nonempty, longer, marks⟩ := front_append same timestamp
    obtain ⟨u, rfl, requests⟩ := mark_apart nonempty marks
    obtain ⟨w, rfl, -⟩ := request_before_mark wfg wff requests
    have longer : e.timestamp = g.timestamp ++ ']' :: ' ' :: '"' :: g.request w := longer
    have inline : '\n' ∉ w := fun member => wf.timestamp (by simp [longer, request, member])
    refine ⟨{ g with
      referer := w ++ ']' :: ' ' :: '"' :: e.request e.referer, agent := e.agent, tail := e.tail },
      { wfg with referer := ?_, agent := wf.agent }, ?_, .inl timestamp⟩
    · have := not_mem_request wf wf.referer
      simp [IsInline, inline, this]
    · rw [text_eq, text_eq, longer, show e.address = g.address from address.symm]
      simp [request, quotes]
  · obtain ⟨-, same⟩ := List.append_inj same timestamp
    simp only [List.cons.injEq, true_and] at same
    obtain ⟨-, -, -, -, -, same⟩ := request_forced wfg wff same
    rcases shorter with referer | ⟨referer, agent⟩
    · obtain ⟨x, nonempty, longer, marks⟩ := front_append same referer
      have longer : e.referer = g.referer ++ x := longer
      have inline : IsInline x := fun member => wf.referer (by simp [longer, member])
      obtain ⟨y, inline, closed⟩ := quote_after_mark nonempty inline marks
      refine ⟨{ e with referer := g.referer, agent := y, tail := e.agent ++ '"' :: e.tail },
        { wf with referer := wfg.referer, agent := inline }, ?_, .inr ⟨rfl, .inl referer⟩⟩
      have quoted : x ++ '"' :: ' ' :: '"' :: (e.agent ++ '"' :: e.tail) =
          '"' :: ' ' :: '"' :: (y ++ '"' :: (e.agent ++ '"' :: e.tail)) := by
        simpa using congrArg (· ++ (e.agent ++ '"' :: e.tail)) closed
      rw [text_eq, text_eq]
      simp [request, quotes, longer, quoted]
    · obtain ⟨-, same⟩ := List.append_inj same referer
      simp only [List.cons.injEq, true_and] at same
      obtain ⟨x, nonempty, longer, marks⟩ := front_append same agent
      obtain ⟨c, z, rfl⟩ := List.exists_cons_of_ne_nil nonempty
      obtain ⟨rfl, -⟩ := List.cons.inj marks
      have longer : e.agent = g.agent ++ '"' :: z := longer
      refine ⟨{ e with agent := g.agent, tail := z ++ '"' :: e.tail },
        { wf with agent := wfg.agent }, ?_, .inr ⟨rfl, .inr ⟨rfl, agent⟩⟩⟩
      rw [text_eq, text_eq]
      simp [request, quotes, longer]

/-- **Exchanging protocol, size and tail keeps the other parts of what is read.** -/
theorem IsPreferred.exchange {e : Entry} {line line' protocol size tail : List Char}
    (preferred : e.IsPreferred line) (token : IsToken protocol) (number : IsNumber size)
    (decomposed : (e.exchange protocol size tail).Decomposes line') :
    (e.exchange protocol size tail).IsPreferred line' := by
  obtain ⟨g, found⟩ := Option.isSome_iff_exists.1 (isSome_ofChars?_iff.2 ⟨_, decomposed⟩)
  obtain ⟨decomposed', least⟩ := isPreferred_of_ofChars? found
  rcases least _ decomposed with rfl | shorter
  · exact isPreferred_of_ofChars? found
  · obtain ⟨wf, text⟩ := decomposes_iff.1 preferred.1
    obtain ⟨wf', text'⟩ := decomposes_iff.1 decomposed
    obtain ⟨wfg, textg⟩ := decomposes_iff.1 decomposed'
    obtain ⟨h, wfh, same, before⟩ :=
      exists_shorter wf wfg token number (textg.trans text'.symm) shorter
    rcases preferred.2 h (decomposes_iff.2 ⟨wfh, same.trans text⟩) with rfl | after
    · exact absurd before before.asymm
    · exact absurd after before.asymm

/-! ## Blanks around a line -/

/-- A text is one that does not end with a blank, and blanks after it. -/
theorem exists_append_blanks (cs : List Char) :
    ∃ front back, cs = front ++ back ∧ (∀ c ∈ back, isBlank c = true) ∧
      ∀ c ∈ front.getLast?, isBlank c = false := by
  induction cs with
  | nil => exact ⟨[], [], rfl, by simp, by simp⟩
  | cons c cs ih =>
      obtain ⟨front, back, rfl, blanks, last⟩ := ih
      by_cases gone : front = [] ∧ isBlank c = true
      · obtain ⟨rfl, blank⟩ := gone
        exact ⟨[], c :: back, rfl, List.forall_mem_cons.2 ⟨blank, blanks⟩, by simp⟩
      · refine ⟨c :: front, back, rfl, blanks, fun d member => ?_⟩
        rcases eq_or_ne front [] with rfl | nonempty
        · obtain rfl : c = d := by simpa using member
          simpa using gone
        · rw [List.getLast?_cons_of_ne_nil nonempty] at member
          exact last d member

/-- The last character of a line is that of its tail, or else a quote. -/
theorem getLast?_text (e : Entry) : e.text.getLast? = e.tail.getLast?.or (some '"') := by
  unfold text
  rw [List.getLast?_append, List.getLast?_concat]

/-- The parts of a line that is made of parts after blanks.  The tail loses the blanks at its end. -/
theorem exists_decomposes {e : Entry} (wf : e.WellFormed) {before : List Char}
    (blanks : ∀ c ∈ before, isBlank c = true) :
    ∃ tail, Decomposes { e with tail } (before ++ e.text) := by
  have quote : isBlank '"' = false := by decide
  obtain ⟨tail, back, cut, blanks', last⟩ := exists_append_blanks e.tail
  have whole : before ++ e.text = before ++ text { e with tail } ++ back := by
    unfold text
    simp [cut]
  refine ⟨tail, { wf with }, before, back, whole, blanks, blanks', ?_, ?_⟩
  · obtain ⟨c, more, same⟩ := List.exists_cons_of_ne_nil wf.address.1
    have solid := wf.address.2 c (by simp [same])
    unfold text
    simpa [same] using solid
  · rw [getLast?_text]
    cases ends : tail.getLast? with
    | none => simpa using quote
    | some c => simpa using last c ends

end Entry

/-! ## Records -/

/-- A record as a line, with the parts that it does not have. -/
def rendering (r : Record) (protocol size tail : String) : String :=
  r.clientIp ++ " - - [" ++ r.timestamp ++ "] \"" ++ r.method ++ " " ++ r.path ++ " " ++ protocol
    ++ "\" " ++ r.statusCode ++ " " ++ size ++ " \"" ++ r.referer ++ "\" \"" ++ r.userAgent ++ "\""
    ++ tail

theorem toList_rendering (e : Entry) (protocol size tail : String) :
    (rendering e.record protocol size tail).toList =
      (e.exchange protocol.toList size.toList tail.toList).text := by
  have address : " - - [".toList = Entry.afterAddress := rfl
  have timestamp : "] \"".toList = Entry.afterTimestamp := rfl
  have blank : " ".toList = [' '] := rfl
  have protocol' : "\" ".toList = Entry.afterProtocol := rfl
  have size' : " \"".toList = Entry.beforeReferer := rfl
  have referer : "\" \"".toList = Entry.afterReferer := rfl
  have agent : "\"".toList = ['"'] := rfl
  unfold rendering Entry.record Entry.exchange Entry.text
  simp only [String.toList_append, String.toList_ofList, address, timestamp, blank, protocol', size',
    referer, agent]

theorem size_eq (text : String) : text.utf8ByteSize = encodedSize text.toList := by
  rw [← Text.utf8ByteSize_ofList, String.ofList_toList]

theorem size_pos {cs : List Char} (nonempty : cs ≠ []) : 0 < encodedSize cs := by
  obtain ⟨c, cs, rfl⟩ := List.exists_cons_of_ne_nil nonempty
  have := c.utf8Size_pos
  rw [encodedSize]
  omega

/-- A line is no shorter than its record with parts of a byte in the place of those that it drops. -/
theorem size_rendering_le {e : Entry} {line : String} (decomposed : e.Decomposes line.toList)
    {protocol size : String} (short : protocol.utf8ByteSize = 1) (short' : size.utf8ByteSize = 1) :
    (rendering e.record protocol size "").utf8ByteSize ≤ line.utf8ByteSize := by
  obtain ⟨before, after, whole, -⟩ := decomposed.text
  have longer := size_pos decomposed.wellFormed.protocol.1
  have longer' := size_pos decomposed.wellFormed.size.1
  have nothing : encodedSize "".toList = 0 := rfl
  rw [size_eq] at short short' ⊢
  rw [size_eq line, toList_rendering, whole]
  unfold Entry.exchange Entry.text
  simp only [encodedSize_append]
  omega

/-- **A record that is written as a line is read again**, whatever stands for its protocol, size and
tail and whatever blanks stand around it, if the line is within the limit.  It always is without blanks
and a tail and with a protocol and a size of one byte. -/
theorem rendering_reads_back {maxLength : Nat} {line : String} {r : Record}
    (read : (Parser.combined maxLength).read? line = some r) {protocol size : String}
    (token : Entry.IsToken protocol.toList) (number : Entry.IsNumber size.toList) :
    (∀ before tail after : String, (∀ c ∈ before.toList, isBlank c = true) →
        (∀ c ∈ after.toList, isBlank c = true) →
        (before ++ rendering r protocol size tail ++ after).utf8ByteSize ≤ maxLength →
          (Parser.combined maxLength).read? (before ++ rendering r protocol size tail ++ after) =
            some r) ∧
      (protocol.utf8ByteSize = 1 → size.utf8ByteSize = 1 →
        (rendering r protocol size "").utf8ByteSize ≤ maxLength ∧
          (Parser.combined maxLength).read? (rendering r protocol size "") = some r) := by
  obtain ⟨within, e, preferred, rfl⟩ := read?_combined_eq_some_iff.1 read
  have reads : ∀ before tail after : String, (∀ c ∈ before.toList, isBlank c = true) →
      (before ++ rendering e.record protocol size tail ++ after).utf8ByteSize ≤ maxLength →
        (Parser.combined maxLength).read? (before ++ rendering e.record protocol size tail ++ after) =
          some e.record := by
    intro before tail after blanks fits
    -- what stands after the line is part of its tail
    have whole : (before ++ rendering e.record protocol size tail ++ after).toList =
        before.toList ++ (e.exchange protocol.toList size.toList (tail.toList ++ after.toList)).text := by
      rw [String.toList_append, String.toList_append, toList_rendering]
      unfold Entry.exchange Entry.text
      simp only [List.append_assoc]
    obtain ⟨tail', decomposed⟩ := Entry.exists_decomposes
      (preferred.1.wellFormed.exchange token number (tail.toList ++ after.toList)) blanks
    rw [← whole] at decomposed
    have kept := preferred.exchange token number decomposed
    exact read?_combined_eq_some_iff.2 ⟨fits, _, kept, rfl⟩
  refine ⟨fun before tail after blanks _ => reads before tail after blanks, fun short short' => ?_⟩
  have fits := (size_rendering_le preferred.1 short short').trans within
  refine ⟨fits, ?_⟩
  simpa using reads "" "" "" (by simp) (by simpa using fits)

/-- The parts of a line whose timestamp has a mark of the timestamp in it. -/
def sampleEntry : Entry where
  address := ['a']
  timestamp := ['x', ']', ' ', '"', 'y', '"', ' ', 'z']
  method := ['b']
  path := ['c']
  protocol := ['d']
  status := ['1']
  size := ['2']
  referer := ['r']
  agent := ['u']
  tail := []

def sampleLine : String := "a - - [x] \"y\" z] \"b c d\" 1 2 \"r\" \"u\""

theorem rendering_sampleEntry_reads_back :
    (Parser.combined 64).read? sampleLine = some sampleEntry.record ∧
      Entry.IsToken "q\"".toList ∧ Entry.IsNumber "7".toList ∧
      (" " ++ rendering sampleEntry.record "q\"" "7" " \"s\" \"t\"" ++ "\n").utf8ByteSize ≤ 64 ∧
      (Parser.combined 64).read?
          (" " ++ rendering sampleEntry.record "q\"" "7" " \"s\" \"t\"" ++ "\n") =
        some sampleEntry.record := by
  have read : (Parser.combined 64).read? sampleLine = some sampleEntry.record := by decide +kernel
  have token : Entry.IsToken "q\"".toList := by decide +kernel
  have number : Entry.IsNumber "7".toList := by decide +kernel
  have line : rendering sampleEntry.record "q\"" "7" " \"s\" \"t\"" =
      "a - - [x] \"y\" z] \"b c q\"\" 1 7 \"r\" \"u\" \"s\" \"t\"" := by
    rw [← String.toList_inj, toList_rendering]
    decide +kernel
  have fits : (" " ++ rendering sampleEntry.record "q\"" "7" " \"s\" \"t\"" ++ "\n").utf8ByteSize
      ≤ 64 := by
    rw [line, String.utf8ByteSize_append, String.utf8ByteSize_append]
    decide +kernel
  exact ⟨read, token, number, fits, (rendering_reads_back read token number).1 " " " \"s\" \"t\"" "\n"
    (List.all_eq_true.1 (by decide +kernel)) (List.all_eq_true.1 (by decide +kernel)) fits⟩

/-- A protocol of one character can make the line longer than the one that was read: the character may
have several bytes.  So can a blank before the line. -/
theorem rendering_of_one_character_too_long :
    (Parser.combined 36).read? sampleLine = some sampleEntry.record ∧
      Entry.IsToken "é".toList ∧ "é".length = 1 ∧ Entry.IsNumber "2".toList ∧ "2".length = 1 ∧
      rendering sampleEntry.record "é" "2" "" = "a - - [x] \"y\" z] \"b c é\" 1 2 \"r\" \"u\"" ∧
      ¬ (rendering sampleEntry.record "é" "2" "").utf8ByteSize ≤ 36 ∧
      (Parser.combined 36).read? (rendering sampleEntry.record "é" "2" "") = none ∧
      ¬ (" " ++ rendering sampleEntry.record "d" "2" "").utf8ByteSize ≤ 36 := by
  have whole : rendering sampleEntry.record "d" "2" "" = sampleLine := by
    rw [← String.toList_inj, toList_rendering]
    decide +kernel
  have same : rendering sampleEntry.record "é" "2" "" =
      "a - - [x] \"y\" z] \"b c é\" 1 2 \"r\" \"u\"" := by
    rw [← String.toList_inj, toList_rendering]
    decide +kernel
  rw [same, whole, String.utf8ByteSize_append]
  exact ⟨by decide +kernel, by decide +kernel, by decide +kernel, by decide +kernel, by decide +kernel,
    rfl, by decide +kernel, by decide +kernel, by decide +kernel⟩

end ThreatMarker.Line
