/-!
# Static files of the dashboard

## Main definitions

* `Dashboard.style`, `Dashboard.script`: the two files.
* `Dashboard.asset?`: a file by its name.
-/

namespace Lanewise.Dashboard

/-- The style sheet. -/
def style : String :=
  String.join [
    "\n",
    ":root \x7b\n",
    "    --color-success: #10b981;\n",
    "    --color-warning: #f59e0b;\n",
    "    --color-error: #ef4444;\n",
    "    --color-bg-card: #1f2937;\n",
    "    --color-border: #374151;\n",
    "    --color-text-muted: #9ca3af;\n",
    "\x7d\n",
    "\n",
    ".mono \x7b\n",
    "    font-family: ui-monospace, SFMono-Regular, Menlo, Monaco, Consolas, monospace;\n",
    "\x7d\n",
    "\n",
    ".nav-link \x7b\n",
    "    padding: 0.5rem 0.75rem;\n",
    "    border-radius: 0.375rem;\n",
    "    font-size: 0.875rem;\n",
    "    color: #d1d5db;\n",
    "\x7d\n",
    ".nav-link:hover, .nav-link.active \x7b\n",
    "    background: #111827;\n",
    "    color: #fff;\n",
    "\x7d\n",
    "\n",
    ".card \x7b\n",
    "    background: var(--color-bg-card);\n",
    "    border: 1px solid var(--color-border);\n",
    "    border-radius: 0.5rem;\n",
    "    padding: 1rem;\n",
    "\x7d\n",
    ".card .label \x7b\n",
    "    color: var(--color-text-muted);\n",
    "    font-size: 0.75rem;\n",
    "    text-transform: uppercase;\n",
    "\x7d\n",
    ".card .value \x7b\n",
    "    font-size: 1.5rem;\n",
    "    font-weight: 600;\n",
    "\x7d\n",
    "\n",
    "table td, table th \x7b\n",
    "    padding: 0.5rem 0.75rem;\n",
    "\x7d\n",
    "a \x7b color: #60a5fa; \x7d\n",
    "\n",
    ".status-ok \x7b color: var(--color-success); \x7d\n",
    ".status-faulted \x7b color: var(--color-error); \x7d\n",
    ".status-failed \x7b color: var(--color-warning); \x7d\n",
    "\n",
    ".detail \x7b\n",
    "    display: grid;\n",
    "    grid-template-columns: max-content 1fr;\n",
    "    gap: 0.25rem 1.5rem;\n",
    "\x7d\n",
    ".detail dt \x7b color: var(--color-text-muted); \x7d\n",
    "\n",
    ".output \x7b\n",
    "    background: var(--color-bg-card);\n",
    "    border: 1px solid var(--color-border);\n",
    "    border-radius: 0.5rem;\n",
    "    padding: 1rem;\n",
    "    max-height: 32rem;\n",
    "    overflow: auto;\n",
    "\x7d\n",
    "\n",
    ".btn \x7b\n",
    "    display: inline-block;\n",
    "    padding: 0.375rem 0.75rem;\n",
    "    border: 1px solid var(--color-border);\n",
    "    border-radius: 0.375rem;\n",
    "\x7d\n"]

/-- The script. -/
def script : String :=
  String.join [
    "\n",
    "(function () \x7b\n",
    "    function updateTime() \x7b\n",
    "        var el = document.getElementById('current-time');\n",
    "        if (el) el.textContent = new Date().toUTCString();\n",
    "    \x7d\n",
    "    updateTime();\n",
    "    setInterval(updateTime, 1000);\n",
    "\n",
    "    // The overview refreshes while runs are arriving.\n",
    "    if (location.pathname === '/') \x7b\n",
    "        var latest = null;\n",
    "        setInterval(function () \x7b\n",
    "            fetch('/api/status').then(function (r) \x7b return r.json(); \x7d)",
    ".then(function (s) \x7b\n",
    "                if (latest !== null && s.latestSeq !== latest) location.reload();\n",
    "                latest = s.latestSeq;\n",
    "            \x7d).catch(function () \x7b\x7d);\n",
    "        \x7d, 5000);\n",
    "    \x7d\n",
    "\x7d)();\n"]

/-- A file by its name: its text and its type. -/
def asset? (name : String) : Option (String × String) :=
  if name = "style.css" then some (style, "text/css")
  else if name = "app.js" then some (script, "application/javascript")
  else none

end Lanewise.Dashboard
