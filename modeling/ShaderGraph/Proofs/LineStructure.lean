import ShaderGraph.Proofs.FilePaths
import ShaderGraph.Proofs.Inscriptions
import ShaderGraph.Stage.Sink

/-!
# Constants cannot break lines

A document as one text has a line feed between neighbouring lines. If no name that stands in it as it is
has a line feed of its own, then none of its lines has one, whatever bytes constants, types of nodes,
color spaces and the up axis hold, and the lines can be read back from the text.
-/
namespace ShaderGraph.Stage

variable {settings : Settings} {net : Network} {mat : Material} {c : Compiled}

theorem splitOn_joinLines {lines : List Text} (hne : lines ≠ []) :
    Text.splitOn 0x0a (joinLines lines) = lines ↔ ∀ line ∈ lines, 0x0a ∉ line := by
  constructor
  · intro h line hline
    rw [← h] at hline
    exact Text.not_mem_of_mem_splitOn hline
  · intro h
    rw [joinLines, feed_eq]
    exact Literal.splitOn_join_byte hne h

theorem Document.lines_ne_nil (d : Document) : d.lines ≠ [] := by
  simp [Document.lines, Document.linesBy]

theorem Compiled.getLast?_text (c : Compiled) : c.text.getLast? = some 0x7d := by
  obtain ⟨before, hbefore⟩ := Text.join_concat "\n" (c.document.header.lines ++ c.document.opening ++
    c.document.material.materialLines nodeName c.document.header.root ++
    c.document.graphs.flatMap (·.graphLines nodeName c.document.header.root)) (Text.ofString "\x7d")
  have hlast : (Text.ofString "\x7d").getLast? = some 0x7d := by decide
  rw [Compiled.text, joinLines, Compiled.lines, Document.lines, Document.linesBy, hbefore,
    List.getLast?_append, hlast]
  rfl

theorem Sink.received_write (s : Sink) (t : Text) :
    (s.write t).2.2.received = s.received ++ t.take (s.write t).1 ∧
      ((s.write t).2.1 = true → (s.write t).1 = t.length) := by
  unfold Sink.write
  cases s.limit with
  | none => exact ⟨by rw [List.take_length], fun _ => rfl⟩
  | some limit =>
    dsimp only
    split
    · exact ⟨by rw [List.take_length], fun _ => rfl⟩
    · exact ⟨rfl, fun h => by cases h⟩

/-! ## Documents -/

theorem splitOn_text_iff (hc : compile settings net mat = .ok c) :
    Text.splitOn 0x0a c.text = c.lines ↔
      ∀ name, Inscribed settings.root net mat name → 0x0a ∉ name := by
  rw [← lines_iff_of_compile Text.seamed_newline hc]
  exact splitOn_joinLines c.document.lines_ne_nil

structure Lined (text : Text) (lines : List Text) : Prop where
  split : Text.splitOn 0x0a text = lines
  closed : text.getLast? ≠ some 0x0a

theorem lined_of_compile (hc : compile settings net mat = .ok c)
    (hnames : ∀ name, Inscribed settings.root net mat name → 0x0a ∉ name) :
    Lined c.text c.lines :=
  ⟨(splitOn_text_iff hc).mpr hnames, by rw [c.getLast?_text]; decide⟩

theorem deliver_of_compile (hc : compile settings net mat = .ok c) (s : Sink) :
    ∃ d, deliver settings net mat s = .ok d ∧ d.sink.received = s.received ++ c.text.take d.count ∧
      (d.complete = true → d.count = c.text.length) := by
  obtain ⟨hreceived, hcomplete⟩ := s.received_write c.text
  refine ⟨⟨(s.write c.text).1, (s.write c.text).2.1, (s.write c.text).2.2, c.textures⟩, ?_,
    hreceived, hcomplete⟩
  rw [deliver, hc]
  rfl

/-- For a material that compiles, no line that is appended has a line feed exactly if no name that
stands in the document as it is has one. Then the text of the compilation, and what a complete write
hands to a sink, split at line feeds into just these lines, and do not end with a line feed. -/
theorem lines_survive (hc : compile settings net mat = .ok c) :
    ((∀ line ∈ c.lines, 0x0a ∉ line) ↔
      ∀ name, Inscribed settings.root net mat name → 0x0a ∉ name) ∧
    ((∀ name, Inscribed settings.root net mat name → 0x0a ∉ name) →
      (∀ dst, appendLines settings dst net mat = .ok ⟨dst ++ c.lines, c.textures, none⟩) ∧
      (∃ r, report settings net mat = .ok r ∧ r.messages = [] ∧ Lined r.text c.lines) ∧
      ∀ s, ∃ d, deliver settings net mat s = .ok d ∧
        (d.complete = true → ∃ text, d.sink.received = s.received ++ text ∧ d.count = text.length ∧
          Lined text c.lines)) := by
  refine ⟨lines_iff_of_compile Text.seamed_newline hc, fun hnames => ⟨fun dst => ?_, ?_, fun s => ?_⟩⟩
  · rw [appendLines, hc]
  · refine ⟨⟨c.text, c.textures, []⟩, ?_, rfl, lined_of_compile hc hnames⟩
    rw [report, hc]
  · obtain ⟨d, hd, hreceived, hcomplete⟩ := deliver_of_compile hc s
    refine ⟨d, hd, fun hall => ⟨c.text, ?_, hcomplete hall, lined_of_compile hc hnames⟩⟩
    rw [hreceived, hcomplete hall, List.take_length]

/-- A surface with line feeds in the type of its node, in a text and in a color space. -/
def ruffled : Network :=
  .after [.node "a\nb"
    [⟨"label", DataType.string, .ofConstant (.string "x\n\x7d\n")⟩,
     ⟨"tint", DataType.color3, .ofConstant (.color .rgb (.replicate 3 .zero) "\n")⟩]
    [⟨"out", DataType.token⟩]]

def ruffledSettings : Settings := ⟨"Root", Constant.one, "Y\n", .strict⟩

def ruffledMaterial : Material := ⟨"M", ⟨DataType.token, .node 1 "out"⟩, .absent, []⟩

theorem ruffled_lines : ∃ c r, compile ruffledSettings ruffled ruffledMaterial = .ok c ∧
    report ruffledSettings ruffled ruffledMaterial = .ok r ∧ Lined r.text c.lines := by
  obtain ⟨c, hc, hall⟩ := Outcome.exists_of_any
    (x := compile ruffledSettings ruffled ruffledMaterial)
    (q := fun c => c.document.names.all (!·.contains 0x0a)) (by decide +kernel)
  have hnames : ∀ name, Inscribed ruffledSettings.root ruffled ruffledMaterial name →
      0x0a ∉ name := by
    intro name hname
    simpa using List.all_eq_true.mp hall name ((mem_document_names hc).mpr (Or.inl hname))
  obtain ⟨r, hr, _, hlined⟩ := ((lines_survive hc).2 hnames).2.1
  exact ⟨c, r, hc, hr, hlined⟩

end ShaderGraph.Stage
