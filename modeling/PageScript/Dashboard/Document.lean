/-! The document that the dashboard shows: three buttons, and the progress and the log, kept up to
date from the event stream. -/
namespace PageScript.Dashboard.Document

def head : List String := [
  "<!DOCTYPE html>",
  "<html lang=\"en\">",
  "<head>",
  "<meta charset=\"UTF-8\">",
  "<title>qws run</title>",
  "<style>",
  "  body \x7b background: #0a0a0f; color: #e0e0e0; font-family: system-ui, sans-serif; margin: 0; \x7d",
  "  header \x7b padding: 16px 24px; border-bottom: 1px solid #1a1a2e; display: flex; gap: 8px; align-items: center; \x7d",
  "  header h1 \x7b font-size: 18px; margin: 0 16px 0 0; \x7d",
  "  #progress \x7b margin-left: auto; font-family: monospace; \x7d",
  "  button \x7b background: #6366f1; color: #fff; border: none; border-radius: 6px; padding: 8px 16px; cursor: pointer; \x7d",
  "  button.stop \x7b background: #ef4444; \x7d",
  "  #log \x7b padding: 16px 24px; font-family: \x27Fira Code\x27, monospace; font-size: 13px; white-space: pre-wrap; \x7d",
  "  .ERROR \x7b color: #fca5a5; \x7d",
  "  .WARNING \x7b color: #fcd34d; \x7d",
  "  .done \x7b color: #86efac; \x7d",
  "</style>",
  "</head>"]

def body : List String := [
  "<body>",
  "  <header>",
  "    <h1>qws</h1>",
  "    <button onclick=\"control(\x27pause\x27)\">Pause</button>",
  "    <button onclick=\"control(\x27resume\x27)\">Resume</button>",
  "    <button class=\"stop\" onclick=\"control(\x27stop\x27)\">Stop</button>",
  "    <span id=\"progress\">waiting...</span>",
  "  </header>",
  "  <div id=\"log\"></div>"]

def follower : List String := [
  "<script>",
  "  const log = document.getElementById(\x27log\x27);",
  "  const progress = document.getElementById(\x27progress\x27);",
  "",
  "  function line(cls, text) \x7b",
  "    const div = document.createElement(\x27div\x27);",
  "    div.className = cls;",
  "    div.textContent = text;",
  "    log.appendChild(div);",
  "    window.scrollTo(0, document.body.scrollHeight);",
  "  \x7d",
  "",
  "  async function control(action) \x7b",
  "    await fetch(\x27/control\x27, \x7b",
  "      method: \x27POST\x27,",
  "      headers: \x7b\x27Content-Type\x27: \x27application/json\x27\x7d,",
  "      body: JSON.stringify(\x7baction\x7d),",
  "    \x7d);",
  "  \x7d",
  "",
  "  const es = new EventSource(\x27/events\x27);",
  "  es.addEventListener(\x27progress\x27, e => \x7b",
  "    const d = JSON.parse(e.data);",
  "    progress.textContent = (d.index + 1) + \x27/\x27 + d.total + \x27 \x27 + d.description;",
  "  \x7d);",
  "  es.addEventListener(\x27log\x27, e => \x7b",
  "    const d = JSON.parse(e.data);",
  "    line(d.level, d.line);",
  "  \x7d);",
  "  es.addEventListener(\x27finished\x27, e => \x7b",
  "    const d = JSON.parse(e.data);",
  "    progress.textContent = d.success ? \x27done\x27 : \x27finished with errors\x27;",
  "    line(\x27done\x27, d.summary);",
  "  \x7d);",
  "</script>",
  "</body>",
  "</html>"]

def html : String := "\n".intercalate (head ++ body ++ follower) ++ "\n"

end PageScript.Dashboard.Document
