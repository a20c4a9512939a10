import Velvt.ClassifierPlugins

/-!
# The tables that are shipped

The curated sites, the keyword rules and the taxonomy that the built-in plugins are made from, as
the repository holds them.  Every entry has a valid label and a category of the taxonomy.
-/

namespace Velvt.Rules

open List

/-- A label that passes the engine's check, and a category of the taxonomy. -/
def IsShippable (label category : String) : Prop :=
  isValidLabel label = true ∧ containsCategory category = true
  deriving Decidable

/-- Curated tables whose entries the engine accepts.  `Taxonomy::from_json` refuses a taxonomy with
any other, and a test holds the curated sites to it. -/
structure CuratedTables extends BuiltinTables where
  siteSeeds_shippable : ∀ seed ∈ siteSeeds, IsShippable seed.label seed.category
  seedBundles_shippable : ∀ entry ∈ seedBundles, IsShippable entry.label entry.category
  seedApplications_shippable : ∀ entry ∈ seedApplications, IsShippable entry.label entry.category
  browserContextRules_shippable : ∀ rule ∈ browserContextRules, IsShippable rule.label rule.category
  purposeRules_shippable : ∀ rule ∈ purposeRules, IsShippable rule.label rule.category
  defaultCategory_known : containsCategory defaultCategory = true

/-- An entry of `seed_applications`. -/
structure TaxonomyApplication extends SeedApplication where
  bundleIdentifier : Option String

/-- `merged_seed_bundles`: the entries that name a bundle identifier, and the bundles of their
own. -/
def mergedSeedBundles (applications : List TaxonomyApplication) (declared : List SeedBundle) :
    List SeedBundle :=
  (applications.filterMap fun entry =>
    entry.bundleIdentifier.map fun bundleIdentifier =>
      { bundleIdentifier := bundleIdentifier
        label := entry.label
        category := entry.category }) ++ declared

def alone (host : String) : String × SiteScope := (host, .hostOnly)

def under (host : String) : String × SiteScope := (host, .withSubdomains)

/-- Entries that follow each other in one category, those with the same label together. -/
def seedsIn (category : String) (runs : List (String × List (String × SiteScope))) :
    List SiteSeed :=
  runs.flatMap fun (label, hosts) => hosts.map fun (host, scope) => ⟨host, scope, label, category⟩

/-- `SITE_SEEDS`. -/
def siteSeedTable : List SiteSeed :=
  seedsIn "COMMUNICATION"
    [("communication:gmail", [alone "mail.google.com", alone "gmail.com"]),
     ("communication:calendar", [alone "calendar.google.com"]),
     ("meeting:meet", [alone "meet.google.com"]),
     ("communication:chat", [alone "chat.google.com", alone "messages.google.com",
      alone "voice.google.com"]),
     ("communication:outlook", [alone "outlook.office.com", alone "outlook.office365.com",
      alone "outlook.live.com", alone "outlook.cloud.microsoft", alone "outlook.com"]),
     ("meeting:teams", [alone "teams.microsoft.com", alone "teams.live.com",
      alone "teams.cloud.microsoft"]),
     ("communication:slack", [under "slack.com"]),
     ("communication:discord", [under "discord.com", alone "discord.gg"]),
     ("communication:chat", [alone "web.whatsapp.com"]),
     ("communication:telegram", [alone "web.telegram.org"]),
     ("communication:chat", [under "messenger.com", alone "app.element.io", under "zulipchat.com",
      alone "cliq.zoho.com", alone "app.ringcentral.com"]),
     ("meeting:zoom", [under "zoom.us", under "zoom.com"]),
     ("meeting:video", [under "webex.com", under "gotomeeting.com", alone "meet.goto.com",
      under "whereby.com", alone "meet.jit.si", under "gather.town", alone "meeting.zoho.com"]),
     ("communication:chat", [under "loom.com"]),
     ("communication:email", [alone "mail.proton.me", alone "mail.protonmail.com",
      under "fastmail.com", alone "mail.superhuman.com", alone "mail.yahoo.com",
      alone "mail.aol.com", alone "mail.zoho.com", alone "app.hey.com", alone "app.tuta.com",
      alone "mail.missiveapp.com", alone "app.frontapp.com", alone "app.shortwave.com"]),
     ("communication:calendar", [alone "calendar.proton.me", alone "calendar.zoho.com",
      under "calendly.com", under "cal.com"])] ++
  seedsIn "FOCUS_WORK"
    [("document:docs", [alone "docs.google.com"]),
     ("document:sheets", [alone "sheets.google.com"]),
     ("document:slides", [alone "slides.google.com"]),
     ("document:write", [alone "keep.google.com"]),
     ("document:edit", [under "officeapps.live.com"]),
     ("document:word", [alone "word.cloud.microsoft"]),
     ("document:excel", [alone "excel.cloud.microsoft"]),
     ("document:powerpoint", [alone "powerpoint.cloud.microsoft"]),
     ("document:write", [alone "loop.cloud.microsoft"]),
     ("document:notion", [alone "notion.so"]),
     ("document:write", [under "coda.io", under "quip.com", under "craft.do",
      under "roamresearch.com", under "hackmd.io", alone "evernote.com",
      alone "app.grammarly.com"]),
     ("document:overleaf", [under "overleaf.com"]),
     ("document:write", [under "typst.app", alone "writer.zoho.com"]),
     ("document:sheets", [alone "sheet.zoho.com"]),
     ("document:slides", [alone "show.zoho.com", under "pitch.com", under "gamma.app"]),
     ("design:visual", [under "figma.com", under "canva.com", under "miro.com", under "framer.com",
      under "webflow.com", under "sketch.com", under "penpot.app", under "excalidraw.com",
      under "tldraw.com", alone "app.diagrams.net", under "draw.io", under "lucid.app",
      under "whimsical.com", alone "app.mural.co", under "photopea.com", alone "express.adobe.com",
      alone "photoshop.adobe.com"]),
     ("design:3d", [alone "app.spline.design"]),
     ("design:cad", [alone "cad.onshape.com", under "tinkercad.com"]),
     ("document:code", [alone "vscode.dev", under "codesandbox.io", under "stackblitz.com",
      under "replit.com", alone "colab.research.google.com", alone "play.rust-lang.org",
      alone "app.hex.tech", under "cloud.databricks.com", under "azuredatabricks.net",
      alone "app.snowflake.com", alone "web.postman.co", under "bolt.new", under "lovable.dev",
      under "v0.dev", under "v0.app", under "console.aws.amazon.com",
      alone "console.cloud.google.com", alone "console.firebase.google.com",
      alone "portal.azure.com", alone "vercel.com", alone "app.netlify.com",
      alone "dash.cloudflare.com", alone "dashboard.heroku.com", alone "dashboard.render.com",
      alone "cloud.digitalocean.com", alone "cloud.mongodb.com", under "datadoghq.com",
      under "sentry.io", under "grafana.net", alone "appstoreconnect.apple.com"])] ++
  seedsIn "REFERENCE"
    [("reference:read", [alone "google.com", alone "google.co.uk", alone "google.ca",
      alone "google.com.au", alone "google.co.in", alone "google.de", alone "bing.com",
      alone "duckduckgo.com", alone "search.brave.com", alone "kagi.com"]),
     ("reference:ai_assistant", [under "chatgpt.com", alone "chat.openai.com", under "claude.ai",
      under "perplexity.ai", alone "gemini.google.com", alone "aistudio.google.com",
      alone "notebooklm.google.com", alone "copilot.microsoft.com", alone "chat.mistral.ai",
      alone "chat.deepseek.com", under "grok.com", under "poe.com", under "you.com",
      under "elicit.com"]),
     ("reference:github", [under "github.com", alone "raw.githubusercontent.com"]),
     ("reference:read", [under "github.io"]),
     ("reference:gitlab", [under "gitlab.com"]),
     ("reference:read", [under "gitlab.io", under "bitbucket.org", under "codeberg.org",
      under "googlesource.com", under "huggingface.co"]),
     ("reference:stack_overflow", [under "stackoverflow.com"]),
     ("reference:read", [under "stackexchange.com", under "superuser.com", under "serverfault.com",
      under "askubuntu.com"]),
     ("reference:hacker_news", [alone "news.ycombinator.com"]),
     ("reference:read", [under "lobste.rs"]),
     ("reference:mdn", [alone "developer.mozilla.org"]),
     ("reference:read", [alone "developer.apple.com", under "docs.rs", under "crates.io",
      under "rust-lang.org", under "tokio.rs", under "python.org", under "pypi.org",
      under "readthedocs.io", under "readthedocs.org", under "npmjs.com", under "nodejs.org",
      under "typescriptlang.org", under "react.dev", under "reactnative.dev", under "nextjs.org",
      under "vuejs.org", under "angular.dev", under "svelte.dev", under "tailwindcss.com",
      under "vite.dev", under "playwright.dev", under "go.dev", under "kotlinlang.org",
      under "spring.io", under "apache.org", under "swift.org", under "swiftpackageindex.com",
      under "cppreference.com", under "php.net", under "rubygems.org", under "rubyonrails.org",
      under "djangoproject.com", alone "fastapi.tiangolo.com", under "numpy.org",
      under "pydata.org", under "scikit-learn.org", under "pytorch.org", under "tensorflow.org",
      under "flutter.dev", under "pub.dev", under "postgresql.org", under "sqlite.org",
      alone "hub.docker.com", under "kubernetes.io", under "git-scm.com", under "brew.sh",
      under "archlinux.org", under "man7.org", under "devdocs.io", under "w3schools.com",
      under "geeksforgeeks.org", under "caniuse.com", under "css-tricks.com", under "web.dev",
      under "w3.org", under "whatwg.org", under "ietf.org", under "gitbook.io",
      alone "learning.oreilly.com", alone "docs.aws.amazon.com", alone "aws.amazon.com",
      alone "cloud.google.com", alone "developers.google.com", alone "firebase.google.com",
      alone "ai.google.dev", alone "support.google.com", alone "learn.microsoft.com",
      alone "code.visualstudio.com", alone "platform.openai.com", alone "developers.cloudflare.com",
      alone "docs.netlify.com", alone "devcenter.heroku.com", alone "docs.digitalocean.com",
      alone "api.slack.com", alone "support.discord.com", alone "developers.zoom.us",
      alone "support.zoom.us", alone "support.zoom.com", alone "view.officeapps.live.com",
      alone "help.figma.com", alone "docs.datadoghq.com", alone "docs.sentry.io",
      alone "developer.okta.com", alone "help.okta.com", alone "support.1password.com",
      alone "developer.1password.com"]),
     ("document:drive", [alone "drive.google.com", alone "dropbox.com", alone "app.box.com",
      alone "workdrive.zoho.com"]),
     ("reference:contacts", [alone "contacts.google.com"]),
     ("reference:wikipedia", [under "wikipedia.org"]),
     ("reference:read", [under "wikimedia.org", under "wiktionary.org", under "britannica.com",
      under "merriam-webster.com", under "dictionary.com", under "thesaurus.com",
      alone "dictionary.cambridge.org", under "wordreference.com", under "deepl.com",
      alone "translate.google.com", under "wolframalpha.com", alone "web.archive.org",
      under "statista.com", alone "books.google.com"]),
     ("reference:research", [alone "scholar.google.com", alone "patents.google.com",
      under "arxiv.org", under "biorxiv.org", under "ncbi.nlm.nih.gov", under "jstor.org",
      under "semanticscholar.org", under "researchgate.net", under "sciencedirect.com",
      alone "link.springer.com", under "nature.com", under "science.org",
      alone "onlinelibrary.wiley.com", alone "academic.oup.com", alone "ieeexplore.ieee.org",
      alone "dl.acm.org", under "plos.org", under "frontiersin.org", under "mdpi.com",
      under "ssrn.com", under "openreview.net", under "aclanthology.org", under "neurips.cc",
      under "mlr.press", under "nejm.org", under "zotero.org"])] ++
  seedsIn "TASK_MANAGEMENT"
    [("task:manage", [under "jira.com", under "linear.app", under "trello.com",
      alone "app.asana.com", alone "app.clickup.com", under "monday.com", under "height.app",
      alone "app.shortcut.com", under "todoist.com", under "ticktick.com", alone "app.any.do",
      under "basecamp.com", under "wrike.com", under "teamwork.com", alone "app.plane.so",
      under "youtrack.cloud", under "aha.io", alone "app.smartsheet.com", alone "app.sunsama.com",
      alone "app.usemotion.com", alone "tasks.google.com", alone "tasks.office.com",
      alone "planner.cloud.microsoft", alone "to-do.office.com", alone "to-do.live.com",
      alone "projects.zoho.com"])] ++
  seedsIn "SOCIAL_FEED"
    [("social:reddit", [under "reddit.com", alone "redd.it"]),
     ("social:x", [under "x.com", under "twitter.com"]),
     ("social:instagram", [under "instagram.com"]),
     ("social:facebook", [alone "facebook.com", alone "m.facebook.com", alone "web.facebook.com"]),
     ("social:threads", [under "threads.net", under "threads.com"]),
     ("social:feed", [under "bsky.app", under "pinterest.com", under "tumblr.com",
      under "nextdoor.com", under "truthsocial.com", under "lemmy.world", under "mastodon.social",
      under "mastodon.online", under "hachyderm.io", under "fosstodon.org",
      under "infosec.exchange"])] ++
  seedsIn "PASSIVE_CONSUMPTION"
    [("video:youtube", [under "youtube.com", alone "youtu.be"]),
     ("video:tiktok", [under "tiktok.com"]),
     ("video:netflix", [under "netflix.com"]),
     ("video:twitch", [under "twitch.tv"]),
     ("video:streaming", [under "kick.com"]),
     ("video:disney", [under "disneyplus.com"]),
     ("video:hulu", [under "hulu.com"]),
     ("video:max", [under "max.com", under "hbomax.com"]),
     ("video:prime", [under "primevideo.com"]),
     ("video:streaming", [alone "tv.apple.com", under "peacocktv.com", under "paramountplus.com",
      under "crunchyroll.com", under "tubitv.com", under "pluto.tv", under "fubo.tv",
      under "mubi.com", under "plex.tv", under "dailymotion.com"]),
     ("audio:spotify", [alone "open.spotify.com"]),
     ("audio:music", [alone "music.apple.com"]),
     ("audio:listen", [alone "podcasts.apple.com"]),
     ("audio:music", [alone "music.amazon.com", under "soundcloud.com", under "pandora.com",
      under "deezer.com", under "tidal.com", under "bandcamp.com", under "iheart.com"]),
     ("audio:listen", [under "pocketcasts.com", under "overcast.fm"])] ++
  seedsIn "SYSTEM"
    [("system:manage", [alone "accounts.google.com", alone "myaccount.google.com",
      alone "passwords.google.com", alone "myactivity.google.com", alone "takeout.google.com",
      alone "one.google.com", alone "admin.google.com", alone "appleid.apple.com",
      alone "account.apple.com", alone "idmsa.apple.com", alone "iforgot.apple.com",
      alone "login.microsoftonline.com", alone "login.microsoft.com", alone "login.live.com",
      alone "account.microsoft.com", alone "account.live.com", alone "myaccount.microsoft.com",
      alone "mysignins.microsoft.com", alone "myapps.microsoft.com", alone "admin.microsoft.com",
      alone "portal.manage.microsoft.com", alone "signin.aws.amazon.com", under "awsapps.com",
      alone "id.atlassian.com", alone "accounts.zoho.com", alone "account.proton.me",
      alone "accounts.firefox.com", alone "auth.openai.com", under "okta.com",
      under "oktapreview.com", under "okta-emea.com", under "onelogin.com", under "duosecurity.com",
      under "1password.com", under "1password.eu", alone "vault.bitwarden.com",
      alone "routerlogin.net", alone "orbilogin.com", alone "tplinkwifi.net", under "speedtest.net",
      alone "fast.com"])]

/-- `BROWSER_CONTEXT_RULES`. -/
def browserContextRuleTable : List PurposeRule :=
  [⟨["google sheets", "docs google com spreadsheets", "sheets google com"],
      "document:sheets", "FOCUS_WORK"⟩,
    ⟨["google slides", "docs google com presentation", "slides google com"],
      "document:slides", "FOCUS_WORK"⟩,
    ⟨["docs google com", "google docs"], "document:docs", "FOCUS_WORK"⟩,
    ⟨["drive google com", "google drive"], "document:drive", "REFERENCE"⟩,
    ⟨["mail google com", "gmail", "inbox"], "communication:gmail", "COMMUNICATION"⟩,
    ⟨["calendar google com", "google calendar"], "communication:calendar", "COMMUNICATION"⟩,
    ⟨["meet google com", "google meet"], "meeting:meet", "COMMUNICATION"⟩,
    ⟨["youtube com", "youtu be", "youtube"], "video:youtube", "PASSIVE_CONSUMPTION"⟩,
    ⟨["github com", "github"], "reference:github", "REFERENCE"⟩,
    ⟨["gitlab com", "gitlab"], "reference:gitlab", "REFERENCE"⟩,
    ⟨["stackoverflow com", "stack overflow"], "reference:stack_overflow", "REFERENCE"⟩,
    ⟨["developer apple com", "docs rs", "rust docs", "python docs", "developer mozilla org",
       "react docs", "nextjs docs", "tailwind docs", "api reference"],
      "reference:read", "REFERENCE"⟩,
    ⟨["linear app", "linear issue", "linear"], "task:manage", "TASK_MANAGEMENT"⟩,
    ⟨["atlassian net", "jira"], "task:manage", "TASK_MANAGEMENT"⟩,
    ⟨["notion so", "notion"], "document:write", "FOCUS_WORK"⟩,
    ⟨["chatgpt com", "chat openai com", "claude ai", "perplexity ai"],
      "reference:ai_assistant", "REFERENCE"⟩,
    ⟨["reddit com", "reddit"], "social:reddit", "SOCIAL_FEED"⟩,
    ⟨["x com", "twitter com", "twitter"], "social:x", "SOCIAL_FEED"⟩,
    ⟨["instagram com", "instagram"], "social:instagram", "SOCIAL_FEED"⟩,
    ⟨["linkedin com feed", "linkedin feed"], "social:linkedin", "SOCIAL_FEED"⟩]

/-- `PURPOSE_RULES`. -/
def purposeRuleTable : List PurposeRule :=
  [⟨["autodesk", "fusion", "fusion360", "solidworks", "onshape", "rhino", "rhinoceros",
       "sketchup", "freecad", "openscad", "cad", "revit", "archicad", "vectorworks", "creo",
       "catia", "inventor", "shapr3d", "plasticity"], "design:cad", "FOCUS_WORK"⟩,
    ⟨["blender", "maya", "cinema4d", "houdini", "zbrush", "substance", "unity", "unreal", "prusa",
       "prusaslicer", "bambu", "orca slicer", "cura", "meshmixer"], "design:3d", "FOCUS_WORK"⟩,
    ⟨["figma", "sketch", "adobe xd", "illustrator", "photoshop", "indesign", "canva", "affinity",
       "framer", "principle", "procreate"], "design:visual", "FOCUS_WORK"⟩,
    ⟨["premiere", "after effects", "davinci", "resolve", "final cut", "capcut", "screenflow",
       "audition", "logic pro", "garageband", "ableton", "fl studio", "reaper", "descript"],
      "creative:edit", "FOCUS_WORK"⟩,
    ⟨["vscode", "visual studio code", "code oss", "vscodium", "visual studio", "xcode", "cursor",
       "windsurf", "trae", "zed", "nova", "sublime", "intellij", "idea", "pycharm", "webstorm",
       "clion", "android studio", "terminal", "iterm", "warp", "ghostty", "alacritty", "wezterm",
       "kitty", "github desktop", "gitkraken", "fork", "docker", "postman", "insomnia",
       "tableplus", "datagrip", "sequel ace", "localhost", "pull request", "merge request",
       "stack trace", "api docs", "swagger"], "document:code", "FOCUS_WORK"⟩,
    ⟨["word", "pages", "ulysses", "bear", "typora", "ia writer", "scrivener", "latex", "overleaf",
       "google docs", "docs google com"], "document:write", "FOCUS_WORK"⟩,
    ⟨["excel", "numbers", "google sheets", "sheets google com", "spreadsheet", "airtable"],
      "document:spreadsheet", "FOCUS_WORK"⟩,
    ⟨["powerpoint", "keynote", "google slides", "slides google com", "presentation", "pitch deck"],
      "document:presentation", "FOCUS_WORK"⟩,
    ⟨["mail", "gmail", "outlook", "superhuman", "spark", "hey", "proton mail", "fastmail"],
      "communication:email", "COMMUNICATION"⟩,
    ⟨["zoom", "meet", "teams", "webex", "around", "facetime", "whereby", "tuple", "screen share",
       "video call"], "meeting:video", "COMMUNICATION"⟩,
    ⟨["slack", "discord", "telegram", "whatsapp", "messages", "messenger", "signal", "mattermost",
       "zulip", "wechat"], "communication:chat", "COMMUNICATION"⟩,
    ⟨["todo", "task", "asana", "linear", "jira", "trello", "clickup", "monday", "height",
       "notion task", "things", "omnifocus", "todoist"], "task:manage", "TASK_MANAGEMENT"⟩,
    ⟨["quickbooks", "xero", "stripe", "bank", "invoice", "payroll", "expense", "budget"],
      "task:finance", "TASK_MANAGEMENT"⟩,
    ⟨["youtube", "youtu be", "netflix", "tiktok", "twitch", "hulu", "disney", "prime video",
       "max", "peacock", "paramount"], "video:streaming", "PASSIVE_CONSUMPTION"⟩,
    ⟨["spotify", "music", "podcast", "apple music", "soundcloud", "overcast", "pocket casts"],
      "audio:listen", "PASSIVE_CONSUMPTION"⟩,
    ⟨["reddit", "twitter", "x com", "instagram", "facebook", "threads", "linkedin feed", "bsky",
       "bluesky", "mastodon"], "social:feed", "SOCIAL_FEED"⟩,
    ⟨["chatgpt", "claude", "perplexity", "copilot", "gemini", "cursor chat", "poe", "mistral"],
      "reference:ai_assistant", "REFERENCE"⟩,
    ⟨["wikipedia", "docs", "developer", "stackoverflow", "stack overflow", "mdn", "readme",
       "manual", "reference", "documentation", "pdf", "preview", "acrobat", "coursera", "udemy",
       "edx", "khan academy", "blackboard", "canvas lms"], "reference:read", "REFERENCE"⟩,
    ⟨["settings", "preferences", "activity monitor", "disk utility", "keychain", "finder",
       "installer", "software update"], "system:manage", "SYSTEM"⟩]

def app (name : String) : String × Option String := (name, none)

def bundled (name bundleIdentifier : String) : String × Option String :=
  (name, some bundleIdentifier)

/-- Entries that follow each other in one category, those with the same label together. -/
def applicationsIn (category : String) (runs : List (String × List (String × Option String))) :
    List TaxonomyApplication :=
  runs.flatMap fun (label, entries) =>
    entries.map fun (name, bundleIdentifier) => ⟨⟨name, label, category⟩, bundleIdentifier⟩

/-- `seed_applications` of the shipped taxonomy. -/
def seedApplicationTable : List TaxonomyApplication :=
  applicationsIn "FOCUS_WORK"
    [("document:edit", [app "VS Code"]),
     ("document:code", [bundled "Visual Studio Code" "com.microsoft.VSCode", app "Code - OSS",
      app "VSCodium"]),
     ("document:edit", [bundled "Xcode" "com.apple.dt.Xcode", app "Zed",
      bundled "Cursor" "com.todesktop.230313mzl4w4u92"]),
     ("document:code", [app "Windsurf", app "Trae", app "IntelliJ IDEA", app "PyCharm",
      app "WebStorm", app "CLion", app "Android Studio"]),
     ("document:notion", [bundled "Notion" "notion.id"]),
     ("document:obsidian", [bundled "Obsidian" "md.obsidian"]),
     ("document:overleaf", [app "Overleaf"]),
     ("document:docs", [app "Google Docs", app "Docs"]),
     ("document:sheets", [app "Google Sheets", app "Sheets"]),
     ("document:slides", [app "Google Slides", app "Slides"])] ++
  applicationsIn "REFERENCE" [("document:drive", [app "Google Drive", app "Dropbox"])] ++
  applicationsIn "FOCUS_WORK"
    [("document:word", [app "Microsoft Word"]),
     ("document:excel", [app "Microsoft Excel"]),
     ("document:powerpoint", [app "Microsoft PowerPoint"]),
     ("document:pages", [app "Pages"]),
     ("document:numbers", [app "Numbers"]),
     ("document:keynote", [app "Keynote"])] ++
  applicationsIn "TASK_MANAGEMENT" [("task:manage", [app "Linear", app "Jira"])] ++
  applicationsIn "PASSIVE_CONSUMPTION"
    [("video:youtube", [app "YouTube"]),
     ("video:netflix", [app "Netflix"]),
     ("video:tiktok", [app "TikTok"]),
     ("video:twitch", [app "Twitch"]),
     ("video:hulu", [app "Hulu"]),
     ("video:disney", [app "Disney+"]),
     ("video:prime", [app "Prime Video"]),
     ("video:max", [app "Max"]),
     ("audio:spotify", [bundled "Spotify" "com.spotify.client"]),
     ("audio:music", [app "Apple Music"])] ++
  applicationsIn "SOCIAL_FEED"
    [("social:reddit", [app "Reddit"]),
     ("social:twitter", [app "Twitter*"]),
     ("social:x", [app "X"]),
     ("social:instagram", [app "Instagram"]),
     ("social:facebook", [app "Facebook"]),
     ("social:threads", [app "Threads"]),
     ("social:linkedin", [app "LinkedIn"])] ++
  applicationsIn "COMMUNICATION"
    [("communication:slack", [bundled "Slack" "com.tinyspeck.slackmacgap"]),
     ("communication:discord", [bundled "Discord" "com.hnc.Discord"]),
     ("communication:imessage", [app "iMessage"]),
     ("communication:gmail", [app "Gmail"]),
     ("communication:outlook", [app "Outlook"]),
     ("communication:email", [app "Superhuman", app "Mail"]),
     ("communication:calendar", [app "Calendar", app "Google Calendar"]),
     ("meeting:zoom", [app "Zoom"]),
     ("meeting:meet", [app "Meet", app "Google Meet"]),
     ("meeting:teams", [app "Microsoft Teams"]),
     ("communication:telegram", [app "Telegram"])] ++
  applicationsIn "TASK_MANAGEMENT"
    [("task:manage", [app "Linear (task view)", app "Jira (task view)", app "Todoist", app "Asana",
      app "Trello", app "ClickUp", app "Monday", app "Notion (task view)", app "Things 3",
      app "OmniFocus"])] ++
  applicationsIn "REFERENCE"
    [("reference:wikipedia", [app "Wikipedia"]),
     ("reference:mdn", [app "MDN"]),
     ("reference:stack_overflow", [app "Stack Overflow"]),
     ("reference:github", [app "GitHub"]),
     ("reference:gitlab", [app "GitLab"]),
     ("reference:ai_assistant", [app "ChatGPT", app "Claude", app "Perplexity"]),
     ("reference:hacker_news", [app "Hacker News"])] ++
  applicationsIn "SYSTEM" [("system:manage", [app "Finder", app "System Settings"])] ++
  applicationsIn "FOCUS_WORK"
    [("document:code", [bundled "Terminal" "com.apple.Terminal",
      bundled "iTerm2" "com.googlecode.iterm2", app "Warp", app "Ghostty", app "Alacritty",
      app "WezTerm", app "Docker Desktop", app "Postman", app "Insomnia"])] ++
  applicationsIn "SYSTEM"
    [("system:manage", [app "Activity Monitor"]), ("system:unknown", [app "unclassifiable"])] ++
  applicationsIn "FOCUS_WORK"
    [("document:code", [app "iTerm", app "kitty", app "Hyper", app "Docker", app "Ollama",
      app "GitHub Desktop", app "Fork", app "Tower", app "Sourcetree", app "TablePlus",
      app "Postico", app "Sequel Ace", app "RStudio", app "R", app "MATLAB", app "Jupyter",
      app "Sublime Text", app "Nova", app "BBEdit", app "Emacs", app "MacVim", app "Neovim",
      app "Fleet", app "GoLand", app "RubyMine", app "PhpStorm", app "DataGrip", app "Rider",
      app "Simulator"]),
     ("document:edit", [bundled "Figma" "com.figma.Desktop", app "Sketch", app "Blender",
      app "Unity", app "Godot", app "Final Cut Pro", app "DaVinci Resolve", app "iMovie",
      app "Logic Pro", app "GarageBand", app "Ableton Live", app "OBS", app "Adobe Photoshop",
      app "Adobe Illustrator", app "Adobe InDesign", app "Adobe Premiere Pro",
      app "Adobe After Effects", app "Affinity Photo", app "Affinity Designer",
      app "Pixelmator Pro", app "Grammarly Desktop", app "Scrivener", app "Ulysses",
      app "iA Writer", app "Bear", app "Craft", app "Logseq", app "Roam Research"])] ++
  applicationsIn "COMMUNICATION"
    [("meeting:zoom", [app "zoom.us"]),
     ("communication:chat", [bundled "WhatsApp" "net.whatsapp.WhatsApp"]),
     ("communication:telegram", [app "Signal"]),
     ("meeting:teams", [app "Webex", app "Skype"]),
     ("meeting:meet", [app "FaceTime"]),
     ("communication:email", [app "Thunderbird", app "Spark", app "Missive"]),
     ("communication:calendar", [app "Fantastical"])] ++
  applicationsIn "REFERENCE"
    [("reference:reading", [app "Preview"]),
     ("reference:wikipedia", [app "Dictionary"]),
     ("reference:reading", [app "Books"]),
     ("reference:research", [app "Zotero", app "Mendeley", app "DEVONthink"])] ++
  applicationsIn "TASK_MANAGEMENT"
    [("task:manage", [app "Things", app "Reminders", app "TickTick", app "Height"])] ++
  applicationsIn "PASSIVE_CONSUMPTION"
    [("video:netflix", [app "TV"]),
     ("audio:music", [app "Music", app "Podcasts"]),
     ("video:youtube", [app "VLC", app "IINA"]),
     ("video:netflix", [app "Plex"]),
     ("video:youtube", [app "QuickTime Player"])] ++
  applicationsIn "SYSTEM"
    [("system:manage", [app "System Preferences", app "Console", app "Disk Utility",
      app "Keychain Access", app "Installer", app "Archive Utility", app "Calculator", app "Velvt",
      app "BetterDisplay", app "Cloudflare WARP", app "logioptionsplus", app "Raycast",
      app "Alfred", app "1Password", app "AppCleaner", app "The Unarchiver", app "Rectangle"])]

/-- `seed_bundles` of the shipped taxonomy. -/
def seedBundleTable : List SeedBundle :=
  [⟨"com.apple.MobileSMS", "communication:chat", "COMMUNICATION"⟩,
    ⟨"com.apple.Notes", "document:write", "FOCUS_WORK"⟩,
    ⟨"com.apple.TextEdit", "document:edit", "FOCUS_WORK"⟩,
    ⟨"com.apple.freeform", "design:visual", "FOCUS_WORK"⟩,
    ⟨"com.apple.AddressBook", "reference:contacts", "REFERENCE"⟩]

section

variable {category : String} (known : containsCategory category = true)

include known

theorem seedsIn_shippable {runs : List (String × List (String × SiteScope))}
    (valid : ∀ run ∈ runs, isValidLabel run.1 = true) :
    ∀ seed ∈ seedsIn category runs, IsShippable seed.label seed.category := by
  intro seed member
  simp only [seedsIn, mem_flatMap, mem_map] at member
  obtain ⟨run, isRun, -, -, rfl⟩ := member
  exact ⟨valid run isRun, known⟩

theorem applicationsIn_shippable {runs : List (String × List (String × Option String))}
    (valid : ∀ run ∈ runs, isValidLabel run.1 = true) :
    ∀ entry ∈ applicationsIn category runs, IsShippable entry.label entry.category := by
  intro entry member
  simp only [applicationsIn, mem_flatMap, mem_map] at member
  obtain ⟨run, isRun, -, -, rfl⟩ := member
  exact ⟨valid run isRun, known⟩

end

theorem seedApplicationTable_shippable :
    ∀ entry ∈ seedApplicationTable, IsShippable entry.label entry.category := by
  simp only [seedApplicationTable, forall_mem_append]
  and_intros
  all_goals exact applicationsIn_shippable (by decide +kernel) (by decide +kernel)

/-- The tables of the built-in plugins. -/
def shippedTables : CuratedTables where
  siteSeeds := siteSeedTable
  seedBundles := mergedSeedBundles seedApplicationTable seedBundleTable
  seedApplications := seedApplicationTable.map (·.toSeedApplication)
  browserContextRules := browserContextRuleTable
  purposeRules := purposeRuleTable
  defaultCategory := "UNLOGGED"
  siteSeeds_shippable := by
    simp only [siteSeedTable, forall_mem_append]
    and_intros
    all_goals exact seedsIn_shippable (by decide +kernel) (by decide +kernel)
  seedBundles_shippable := by
    simp only [mergedSeedBundles, forall_mem_append, mem_filterMap, Option.map_eq_some_iff]
    refine ⟨?_, by decide +kernel⟩
    rintro - ⟨entry, member, -, -, rfl⟩
    exact seedApplicationTable_shippable entry member
  seedApplications_shippable := forall_mem_map.mpr seedApplicationTable_shippable
  browserContextRules_shippable := by decide +kernel
  purposeRules_shippable := by decide +kernel
  defaultCategory_known := by decide +kernel

end Velvt.Rules
