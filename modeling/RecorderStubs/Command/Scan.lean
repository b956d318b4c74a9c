import RecorderStubs.Command.Outcome
import RecorderStubs.Source.Method

/-! Lists the methods of a file and whether each is still a stub. -/
namespace RecorderStubs

def Method.row (m : Method) : List String :=
  let arguments := (m.stub?.map (fun d => s!"{d.signature.parameters.length}")).getD "-"
  [s!"{m.line}", String.ofList m.name, arguments, if m.isStub then "🧩 Stub" else "Implemented"]

def methodTable (input : Path) (ms : List Method) : Entry :=
  .table s!"Methods in {input.name}" ["Line", "Method", "Args", "Status"] (ms.map Method.row)

def scanSummary (ms : List Method) : String :=
  let stubs := ms.countP Method.isStub
  s!"\n[bold]Summary:[/bold] {stubs} stub(s), {ms.length - stubs} implemented."

def scan (input : Path) (c : Console) (d : Disk) : Outcome :=
  match d.readText input .utf8 with
  | .error e => (Stop.ofFile (.unscanned input) e).outcome c d
  | .ok t =>
    match methods t with
    | [] => ⟨.exit 0, c.info s!"No methods found in [path]{input.text}[/path]", d⟩
    | ms => ⟨.exit 0, (c.add (methodTable input ms)).add (.print (scanSummary ms)), d⟩

end RecorderStubs
