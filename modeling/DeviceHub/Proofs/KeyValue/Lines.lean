import DeviceHub.Http.Client
import DeviceHub.Proofs.Dicts
import DeviceHub.Proofs.Text.Trimming
import DeviceHub.Proofs.Text.Utf8

/-!
# Lines of key=value texts

A text is accepted when it has a line that is not blank and all such lines have an equals sign. Such a
line says one entry: what is before its first equals sign is the key, what is behind it the value, both
without the blanks around them. The reader trims a line before it looks for the sign and trims again
what it finds; the first of the two makes no difference (`said?_trim`).

So a dictionary can be written in many ways and is always read back. `Layout` has them all: its entries
in any order, blanks wherever they do not count, blank lines, line feeds with or without a carriage
return before them.

* `Says`: what a line says.
* `entries?_eq_ok`: the entries of a list of lines.
* `entries?_layout`: the entries of a text that is written in order.
* `parse_accepts`: which texts are accepted, what they come to, and what is made of the others.
-/
namespace DeviceHub

namespace KeyValue

variable {line : List Char} {ls : List (List Char)} {e : String × String}
  {es : List (String × String)} {text : String} {d : Dict String}

/-! ## What lines say -/

/-- A line says an entry: the key before its first equals sign, the value behind it. -/
def Says (line : List Char) (e : String × String) : Prop :=
  ∃ a b, line = a ++ '=' :: b ∧ '=' ∉ a ∧
    e = (String.ofList (Text.trim a), String.ofList (Text.trim b))

/-- A line has blanks only, or nothing. -/
def Blank (line : List Char) : Prop := line.all Text.isBlank = true

/-- What a line says, if anything. -/
def said? (line : List Char) : Option (String × String) :=
  (Text.cut '=' line).map fun (a, b) => (String.ofList (Text.trim a), String.ofList (Text.trim b))

theorem said?_eq_some : said? line = some e ↔ Says line e := by
  constructor
  · intro h
    obtain ⟨⟨a, b⟩, hcut, rfl⟩ := Option.map_eq_some_iff.1 h
    obtain ⟨hline, ha⟩ := Text.cut_eq_some hcut
    exact ⟨a, b, hline, ha, rfl⟩
  · rintro ⟨a, b, rfl, ha, rfl⟩
    rw [said?, Text.cut_append_cons ha, Option.map_some]

theorem said?_eq_none : said? line = none ↔ '=' ∉ line := by
  constructor
  · intro h hmem
    obtain ⟨a, b, rfl, ha⟩ := List.eq_append_cons_of_mem hmem
    rw [said?, Text.cut_append_cons ha] at h
    cases h
  · intro h
    rw [said?, Text.cut_eq_none h, Option.map_none]

theorem Says.mem (h : Says line e) : '=' ∈ line := by
  obtain ⟨a, b, rfl, -⟩ := h
  exact List.mem_append_right _ List.mem_cons_self

theorem Says.key (h : Says line e) : '=' ∉ e.1.toList := by
  obtain ⟨a, b, -, ha, rfl⟩ := h
  rw [String.toList_ofList]
  exact fun hmem => ha (Text.trim_subset a hmem)

theorem not_blank_of_mem (h : '=' ∈ line) : ¬Blank line := fun hblank =>
  absurd (List.all_eq_true.1 hblank '=' h) (by decide)

/-- Whether a line is trimmed before its equals sign is looked for makes no difference. -/
theorem said?_trim (line : List Char) : said? (Text.trim line) = said? line := by
  cases h : said? line with
  | none =>
    rw [said?_eq_none] at h ⊢
    exact fun hmem => h (Text.trim_subset line hmem)
  | some e =>
    rw [said?_eq_some] at h ⊢
    obtain ⟨a, b, rfl, ha, rfl⟩ := h
    have hstart : '=' ∉ Text.trimStart a := fun hmem =>
      ha ((List.dropWhile_sublist Text.isBlank).subset hmem)
    refine ⟨_, _, Text.trim_append_cons (by decide) a b, hstart, ?_⟩
    rw [Text.trim_trimStart, Text.trim_trimEnd]

/-! ## The entries of some lines -/

theorem entry?_trim (line : List Char) : entry? (Text.trim line) =
    match said? line with
    | some e => .ok e
    | none => .error (.notAnEntry (String.ofList (Text.trim line))) := by
  rw [← said?_trim, entry?, said?]
  cases Text.cut '=' (Text.trim line) <;> rfl

theorem entries?_of_blank (h : Blank line) : entries? (line :: ls) = entries? ls := by
  rw [entries?, if_pos ((Text.trim_eq_nil_iff line).2 h)]

theorem entries?_of_entry (h : Says line e) :
    entries? (line :: ls) = (entries? ls).map fun es => e :: es := by
  have hblank : Text.trim line ≠ [] := mt (Text.trim_eq_nil_iff line).1 (not_blank_of_mem h.mem)
  rw [entries?, if_neg hblank, entry?_trim, said?_eq_some.2 h]
  cases entries? ls <;> rfl

theorem entries?_of_neither (hblank : ¬Blank line) (h : '=' ∉ line) :
    entries? (line :: ls) = .error (.notAnEntry (String.ofList (Text.trim line))) := by
  rw [entries?, if_neg (mt (Text.trim_eq_nil_iff line).1 hblank), entry?_trim, said?_eq_none.2 h]
  rfl

theorem entries?_of_lines (h : ∀ line ∈ ls, ¬Blank line → '=' ∈ line) :
    entries? ls = .ok (ls.filterMap said?) := by
  induction ls with
  | nil => rfl
  | cons line ls ih =>
    obtain ⟨hline, hrest⟩ := List.forall_mem_cons.1 h
    rw [List.filterMap_cons]
    cases hsaid : said? line with
    | some e =>
      rw [entries?_of_entry (said?_eq_some.1 hsaid), ih hrest]
      rfl
    | none =>
      have hblank : Blank line := of_not_not (mt hline (said?_eq_none.1 hsaid))
      rw [entries?_of_blank hblank, ih hrest]

theorem lines_of_entries? (h : entries? ls = .ok es) : ∀ line ∈ ls, ¬Blank line → '=' ∈ line := by
  induction ls generalizing es with
  | nil => simp
  | cons line ls ih =>
    refine List.forall_mem_cons.2 ⟨fun hblank => ?_, ?_⟩
    · by_contra hequals
      rw [entries?_of_neither hblank hequals] at h
      cases h
    · by_cases hequals : '=' ∈ line
      · obtain ⟨e, he⟩ := Option.ne_none_iff_exists'.1 (mt said?_eq_none.1 (not_not_intro hequals))
        rw [entries?_of_entry (said?_eq_some.1 he)] at h
        cases hrest : entries? ls with
        | error fault =>
          rw [hrest] at h
          cases h
        | ok es' => exact ih hrest
      · by_cases hblank : Blank line
        · exact ih (entries?_of_blank hblank ▸ h)
        · rw [entries?_of_neither hblank hequals] at h
          cases h

theorem entries?_eq_ok : entries? ls = .ok es ↔
    (∀ line ∈ ls, ¬Blank line → '=' ∈ line) ∧ es = ls.filterMap said? := by
  constructor
  · intro h
    have hlines := lines_of_entries? h
    rw [entries?_of_lines hlines] at h
    cases h
    exact ⟨hlines, rfl⟩
  · rintro ⟨hlines, rfl⟩
    exact entries?_of_lines hlines

/-- What becomes of the ends of lines is of no importance when trimming is to follow. -/
theorem entries?_map {f : List Char → List Char} (hf : ∀ line, Text.trim (f line) = Text.trim line)
    (ls : List (List Char)) : entries? (ls.map f) = entries? ls := by
  induction ls with
  | nil => rfl
  | cons line ls ih => simp only [List.map_cons, entries?, hf, ih]

theorem entries?_concat_nil (ls : List (List Char)) : entries? (ls ++ [[]]) = entries? ls := by
  induction ls with
  | nil => rfl
  | cons line ls ih => simp only [List.cons_append, entries?, ih]

theorem trim_dropLast (h : line.getLast? = some '\r') :
    Text.trim line.dropLast = Text.trim line := by
  obtain ⟨init, rfl⟩ := List.getLast?_eq_some_iff.1 h
  rw [List.dropLast_concat, Text.trim_append_of_all (by decide)]

theorem entries?_lines (cs : List Char) : entries? (lines cs) = entries? (Text.pieces '\n' cs) := by
  have htrim : ∀ line : List Char, Text.trim
      (if line.getLast? = some '\r' then line.dropLast else line) = Text.trim line := by
    intro line
    split
    · next h => exact trim_dropLast h
    · rfl
  simp only [lines]
  rw [entries?_map htrim]
  split
  · next h =>
    obtain ⟨init, hinit⟩ := List.getLast?_eq_some_iff.1 h
    rw [hinit, List.dropLast_concat, entries?_concat_nil]
  · rfl

theorem filterMap_said_ne_nil (h : ∀ line ∈ ls, ¬Blank line → '=' ∈ line) :
    ls.filterMap said? ≠ [] ↔ ∃ line ∈ ls, ¬Blank line := by
  simp only [ne_eq, List.filterMap_eq_nil_iff, said?_eq_none, not_forall, not_not, exists_prop]
  exact exists_congr fun line => and_congr_right fun hline => ⟨not_blank_of_mem, h line hline⟩

/-- A text is accepted for its lines, and is then what they say. -/
theorem parse_eq_ok : parse text = .ok d ↔
    (∃ line ∈ lines text.toList, ¬Blank line) ∧
      (∀ line ∈ lines text.toList, ¬Blank line → '=' ∈ line) ∧
      d = Dict.ofList ((lines text.toList).filterMap said?) := by
  have hparse : parse text = .ok d ↔
      ∃ es, entries? (lines text.toList) = .ok es ∧ es ≠ [] ∧ d = Dict.ofList es := by
    simp only [parse, bind, Except.bind]
    cases entries? (lines text.toList) with
    | error fault => simp
    | ok es => by_cases h : es = [] <;> simp [h, eq_comm]
  rw [hparse]
  constructor
  · rintro ⟨es, hes, hne, rfl⟩
    obtain ⟨hlines, rfl⟩ := entries?_eq_ok.1 hes
    exact ⟨(filterMap_said_ne_nil hlines).1 hne, hlines, rfl⟩
  · rintro ⟨hsome, hlines, rfl⟩
    exact ⟨_, entries?_of_lines hlines, (filterMap_said_ne_nil hlines).2 hsome, rfl⟩

/-! ## Written texts -/

/-- An entry that a line can say: no blanks around its key and value, no line feed in them, no equals
sign in its key. -/
structure Writable (e : String × String) : Prop where
  key_trimmed : Text.trim e.1.toList = e.1.toList
  value_trimmed : Text.trim e.2.toList = e.2.toList
  key_line : '\n' ∉ e.1.toList
  value_line : '\n' ∉ e.2.toList
  key_equals : '=' ∉ e.1.toList

/-- Any blanks but line feeds. -/
def Pad (cs : List Char) : Prop := ∀ c ∈ cs, Text.isBlank c = true ∧ c ≠ '\n'

/-- A line, without its end, that writes an entry or nothing. -/
inductive Written : List Char → List (String × String) → Prop
  | blank {pad : List Char} (h : Pad pad) : Written pad []
  | entry {p₁ p₂ p₃ p₄ : List Char} (h₁ : Pad p₁) (h₂ : Pad p₂) (h₃ : Pad p₃) (h₄ : Pad p₄)
    (e : String × String) :
    Written (p₁ ++ e.1.toList ++ p₂ ++ '=' :: (p₃ ++ e.2.toList ++ p₄)) [e]

/-- A text that writes some entries in this order. Its last line may do without an end. -/
inductive Layout : List Char → List (String × String) → Prop
  | last {line : List Char} {es : List (String × String)} (h : Written line es) : Layout line es
  | line {line ending rest : List Char} {es es' : List (String × String)} (h : Written line es)
    (hending : ending = ['\n'] ∨ ending = ['\r', '\n']) (hrest : Layout rest es') :
    Layout (line ++ ending ++ rest) (es ++ es')

theorem pad_singleton {c : Char} (hc : Text.isBlank c = true) (hne : c ≠ '\n') : Pad [c] :=
  List.forall_mem_singleton.2 ⟨hc, hne⟩

theorem Pad.all {pad : List Char} (h : Pad pad) : pad.all Text.isBlank = true :=
  List.all_eq_true.2 fun c hc => (h c hc).1

theorem Pad.not_mem {pad : List Char} (h : Pad pad) {c : Char} (hc : Text.isBlank c = false) :
    c ∉ pad := fun hmem => by simp [(h c hmem).1] at hc

theorem Pad.append {pad pad' : List Char} (h : Pad pad) (h' : Pad pad') : Pad (pad ++ pad') :=
  fun c hc => (List.mem_append.1 hc).elim (h c) (h' c)

theorem trim_pad {p q cs : List Char} (hp : Pad p) (hq : Pad q) (hcs : Text.trim cs = cs) :
    Text.trim (p ++ cs ++ q) = cs := by
  rw [Text.trim_append_of_all hq.all, Text.trim_of_all_append hp.all, hcs]

/-- A carriage return before the line feed is one blank more. -/
theorem Written.carriageReturn (h : Written line es) : Written (line ++ ['\r']) es := by
  have hreturn : Pad ['\r'] := pad_singleton (by decide) (by decide)
  cases h with
  | blank h => exact .blank (h.append hreturn)
  | entry h₁ h₂ h₃ h₄ e =>
    have hmore := Written.entry h₁ h₂ h₃ (h₄.append hreturn) e
    simpa only [List.append_assoc, List.cons_append] using hmore

theorem Written.line_feed (h : Written line es) (hes : ∀ e ∈ es, Writable e) : '\n' ∉ line := by
  have hpad : ∀ {pad : List Char}, Pad pad → '\n' ∉ pad := fun hpad hmem => (hpad _ hmem).2 rfl
  cases h with
  | blank h => exact hpad h
  | entry h₁ h₂ h₃ h₄ e =>
    have he := hes e List.mem_cons_self
    simp [hpad h₁, hpad h₂, hpad h₃, hpad h₄, he.key_line, he.value_line]

theorem says_of_written {p₁ p₂ p₃ p₄ : List Char} (h₁ : Pad p₁) (h₂ : Pad p₂) (h₃ : Pad p₃)
    (h₄ : Pad p₄) (he : Writable e) :
    Says (p₁ ++ e.1.toList ++ p₂ ++ '=' :: (p₃ ++ e.2.toList ++ p₄)) e := by
  have hequals : ∀ {pad : List Char}, Pad pad → '=' ∉ pad := fun hpad => hpad.not_mem (by decide)
  refine ⟨_, _, rfl, by simp [hequals h₁, hequals h₂, he.key_equals], ?_⟩
  rw [trim_pad h₁ h₂ he.key_trimmed, trim_pad h₃ h₄ he.value_trimmed, String.ofList_toList,
    String.ofList_toList]

theorem entries?_written (h : Written line es) (hes : ∀ e ∈ es, Writable e)
    (ls : List (List Char)) : entries? (line :: ls) = (entries? ls).map fun es' => es ++ es' := by
  cases h with
  | blank h =>
    rw [entries?_of_blank h.all]
    cases entries? ls <;> rfl
  | entry h₁ h₂ h₃ h₄ e =>
    exact entries?_of_entry (says_of_written h₁ h₂ h₃ h₄ (hes e List.mem_cons_self))

/-- By induction on the layout, line by line. -/
theorem entries?_layout {cs : List Char} (h : Layout cs es) (hes : ∀ e ∈ es, Writable e) :
    entries? (lines cs) = .ok es := by
  rw [entries?_lines]
  induction h with
  | @last line es h =>
    rw [Text.pieces_of_not_mem (h.line_feed hes), entries?_written h hes]
    simp [entries?, Except.map]
  | @line line ending rest es es' h hending hrest ih =>
    obtain ⟨hes, hes'⟩ := List.forall_mem_append.1 hes
    have hline : ∃ whole, line ++ ending ++ rest = whole ++ '\n' :: rest ∧ Written whole es := by
      rcases hending with rfl | rfl
      · exact ⟨line, by simp, h⟩
      · exact ⟨line ++ ['\r'], by simp, h.carriageReturn⟩
    obtain ⟨whole, htext, hwhole⟩ := hline
    rw [htext, Text.pieces_append_cons (hwhole.line_feed hes), entries?_written hwhole hes, ih hes']
    rfl

/-! ## Reading -/

/-- Under a key is what the last line with this key says. -/
theorem get?_filterMap_said {key value : String} :
    (Dict.ofList (ls.filterMap said?)).get? key = some value ↔
      ∃ before line after, ls = before ++ line :: after ∧ Says line (key, value) ∧
        ∀ later ∈ after, ∀ other, ¬Says later (key, other) := by
  rw [Dict.get?_ofList_eq_some]
  constructor
  · rintro ⟨before, after, hes, hafter⟩
    obtain ⟨ls₁, ls₂, rfl, -, hrest⟩ := List.filterMap_eq_append_iff.1 hes
    obtain ⟨silent, line, ls₃, rfl, -, hline, rfl⟩ := List.filterMap_eq_cons_iff.1 hrest
    refine ⟨ls₁ ++ silent, line, ls₃, by simp, said?_eq_some.1 hline, ?_⟩
    intro later hlater other hsays
    exact hafter _ (List.mem_filterMap.2 ⟨later, hlater, said?_eq_some.2 hsays⟩) rfl
  · rintro ⟨before, line, after, rfl, hline, hafter⟩
    refine ⟨before.filterMap said?, after.filterMap said?, ?_, ?_⟩
    · rw [List.filterMap_append, List.filterMap_cons, said?_eq_some.2 hline]
    · rintro ⟨k, other⟩ he rfl
      obtain ⟨later, hlater, hsaid⟩ := List.mem_filterMap.1 he
      exact hafter later hlater other (said?_eq_some.1 hsaid)

theorem parse_keys (h : parse text = .ok d) : ∀ key ∈ d.keys, '=' ∉ key.toList := by
  obtain ⟨-, -, rfl⟩ := parse_eq_ok.1 h
  intro key hkey
  obtain ⟨⟨k, value⟩, hmem, rfl⟩ := List.mem_map.1 hkey
  obtain ⟨line, -, hsaid⟩ := List.mem_filterMap.1 (Dict.mem_ofList hmem)
  exact (said?_eq_some.1 hsaid).key

theorem parse_layout (hordered : d.Ordered) (hne : d ≠ []) (hwritable : ∀ e ∈ d, Writable e)
    (hperm : es.Perm d) (h : Layout text.toList es) : parse text = .ok d := by
  have hes : es ≠ [] := fun hnil => hne (List.nil_perm.1 (hnil ▸ hperm))
  have hentries := entries?_layout h fun e he => hwritable e (hperm.mem_iff.1 he)
  simp only [parse, hentries, bind, Except.bind, if_neg hes, Dict.ofList_perm hordered hperm]

/-- Every text is the body of some response. -/
theorem exists_response (text : String) : ∃ r : HttpResponse, r.ending = .complete ∧ r.text = text := by
  refine ⟨⟨200, none, Text.Utf8.encode text.toList, .complete⟩, rfl, ?_⟩
  rw [HttpResponse.text, Text.Utf8.decode_encode, String.ofList_toList]

theorem decode_of_fault {fault : Fault} (h : parse text = .error fault) {client : HttpClient}
    {r : HttpResponse} (hending : r.ending = .complete) (hr : r.text = text) :
    client.decode .keyValue r = .error (.deserialization fault.message text) := by
  simp only [HttpClient.decode, HttpResponse.bodyFault?, hending, hr, h]

/-- A text is accepted if it has a line that is not blank and all such lines have an equals sign. Of a
key's lines the last counts. A dictionary that lines can say is read back from whatever text writes it,
and a text that is not accepted is a body that could not be decoded, handed on as it came; any text may
be a body. -/
theorem parse_accepts (text : String) :
    ((∃ d, parse text = .ok d) ↔ (∃ line ∈ lines text.toList, ¬Blank line) ∧
      ∀ line ∈ lines text.toList, ¬Blank line → '=' ∈ line) ∧
    (∀ d, parse text = .ok d → d.Ordered ∧ (∀ key ∈ d.keys, '=' ∉ key.toList) ∧
      ∀ key value, d.get? key = some value ↔
        ∃ before line after, lines text.toList = before ++ line :: after ∧ Says line (key, value) ∧
          ∀ later ∈ after, ∀ other, ¬Says later (key, other)) ∧
    (∀ (d : Dict String) es, d.Ordered → d ≠ [] → (∀ e ∈ d, Writable e) → es.Perm d →
      Layout text.toList es → parse text = .ok d) ∧
    (∃ r : HttpResponse, r.ending = .complete ∧ r.text = text) ∧
    ∀ fault, parse text = .error fault → ∀ (client : HttpClient) (r : HttpResponse),
      r.ending = .complete → r.text = text →
      ∃ e, client.decode .keyValue r = .error e ∧ e = .deserialization fault.message text ∧
        e.kind = .malformed := by
  refine ⟨?_, fun d hd => ?_, fun d es hordered hne hwritable hperm hlayout => ?_,
    exists_response text, fun fault hfault client r hending hr => ?_⟩
  · constructor
    · rintro ⟨d, hd⟩
      obtain ⟨hsome, hlines, -⟩ := parse_eq_ok.1 hd
      exact ⟨hsome, hlines⟩
    · rintro ⟨hsome, hlines⟩
      exact ⟨_, parse_eq_ok.2 ⟨hsome, hlines, rfl⟩⟩
  · refine ⟨?_, parse_keys hd, ?_⟩
    · rw [(parse_eq_ok.1 hd).2.2]
      exact Dict.ordered_ofList _
    · rw [(parse_eq_ok.1 hd).2.2]
      exact fun key value => get?_filterMap_said
  · exact parse_layout hordered hne hwritable hperm hlayout
  · exact ⟨_, decode_of_fault hfault hending hr, rfl, rfl⟩

/-- A blank line, a value with an equals sign and an empty one, carriage returns and a wide blank: the
entries are read back, in their order by key. A response with nothing but blanks in its body is no
payload. -/
theorem parse_accepts_entries :
    parse "\r\n b = 2=3 \r\n\ta\u3000=\n" = .ok [("a", ""), ("b", "2=3")] ∧
    ∃ e, HttpClient.decode ⟨"hub", ⟨"http", none, .plain "", none, none⟩, 30⟩ .keyValue
        ⟨200, none, [10, 32], .complete⟩ = .error e ∧
      e = .deserialization "empty key=value body" "\n " ∧ e.kind = .malformed := by
  obtain ⟨-, -, hread, -⟩ := parse_accepts "\r\n b = 2=3 \r\n\ta\u3000=\n"
  obtain ⟨-, -, -, -, hfails⟩ := parse_accepts "\n "
  have hordered : Dict.Ordered [("a", ""), ("b", "2=3")] := by
    unfold Dict.Ordered
    decide
  have hwritable : ∀ e ∈ [("a", ""), ("b", "2=3")], Writable e := by
    rintro e he
    have : e = ("a", "") ∨ e = ("b", "2=3") := by simpa using he
    rcases this with rfl | rfl <;> constructor <;> decide
  have hspace : Pad [' '] := pad_singleton (by decide) (by decide)
  have htab : Pad ['\t'] := pad_singleton (by decide) (by decide)
  have hwide : Pad ['\u3000'] := pad_singleton (by decide) (by decide)
  have hnone : Pad [] := nofun
  have hlayout : Layout "\r\n b = 2=3 \r\n\ta\u3000=\n".toList [("b", "2=3"), ("a", "")] := by
    have hb := Written.entry hspace hspace hspace hspace ("b", "2=3")
    have ha := Written.entry htab hwide hnone hnone ("a", "")
    exact .line (.blank hnone) (.inr rfl) (.line hb (.inr rfl) (.line ha (.inl rfl)
      (.last (.blank hnone))))
  have htext : HttpResponse.text ⟨200, none, [10, 32], .complete⟩ = "\n " := by decide +kernel
  exact ⟨hread _ _ hordered (by simp) hwritable (.swap _ _ []) hlayout,
    hfails .noEntries (by decide +kernel) _ _ rfl htext⟩

end KeyValue

end DeviceHub
