import NodeWarden.Metrics.Exposition
import NodeWarden.Text.Blank

/-!
# The metrics endpoint

How an agent answers whoever asks for its metrics over HTTP. Of a request only the target
counts, the second word of what arrived first: at the path of the settings there are the
metrics, and elsewhere there is nothing.
-/

namespace NodeWarden.MetricsEndpoint

/-- The target of a request, if nothing is asked for. -/
def rootTarget : List Char := ['/']

/-- The target of a request: its second word. -/
def target (request : List Char) : List Char :=
  let afterFirst := (Text.trimStart request).dropWhile (!Text.isBlank ·)
  let second := (Text.trimStart afterFirst).takeWhile (!Text.isBlank ·)
  if second = [] then rootTarget else second

/-- The text of the metrics. -/
def body (m : Metrics) : String :=
  String.join (m.exposition.map (· ++ "\n"))

/-- The answer to a request, from what of it arrived first. -/
def answer (path : String) (m : Metrics) (request : String) : String :=
  if target request.toList = path.toList then
    "HTTP/1.1 200 OK\r\nContent-Type: text/plain; charset=utf-8\r\n"
      ++ s!"Content-Length: {(body m).utf8ByteSize}\r\n\r\n{body m}"
  else "HTTP/1.1 404 Not Found\r\nContent-Length: 0\r\n\r\n"

end NodeWarden.MetricsEndpoint
