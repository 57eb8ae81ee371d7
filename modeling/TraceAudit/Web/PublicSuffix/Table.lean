/-!
# Public suffixes: the data

The rules for public suffixes of more than one label, by the last label, as they stood on the first
of October 2023: those of registries, and those for domains below which their owners let anyone
have names. A last label without a rule here is a suffix alone.
-/

namespace TraceAudit.PublicSuffix

/-- The rules below a last label. Names are written without that label and the dot before it. -/
structure SuffixRules where
  /-- The names that are suffixes. -/
  suffixes : List String
  /-- The names for which each label before them makes a suffix. The empty name is that of the last
  label itself. -/
  parents : List String
  /-- The names that are no suffixes although a label and a parent make them up. -/
  exceptions : List String

set_option maxRecDepth 20000 in
/-- The rules by their last label. -/
def ruleRows : List (String × SuffixRules) := [
  ("ac", ⟨["com", "drr", "edu", "gov", "mil", "net", "org"], [], []⟩),
  ("academy", ⟨["official"], [], []⟩),
  ("ad", ⟨["nom"], [], []⟩),
  ("ae", ⟨["ac", "blogspot", "co", "gov", "mil", "net", "org", "sch"], [], []⟩),
  ("aero", ⟨[
    "accident-investigation", "accident-prevention", "aerobatic", "aeroclub", "aerodrome", "agents",
    "air-surveillance", "air-traffic-control", "aircraft", "airline", "airport", "airtraffic",
    "ambulance", "amusement", "association", "author", "ballooning", "broker", "caa", "cargo",
    "catering", "certification", "championship", "charter", "civilaviation", "club", "conference",
    "consultant", "consulting", "control", "council", "crew", "design", "dgca", "educator",
    "emergency", "engine", "engineer", "entertainment", "equipment", "exchange", "express",
    "federation", "flight", "fuel", "gliding", "government", "groundhandling", "group",
    "hanggliding", "homebuilt", "insurance", "journal", "journalist", "leasing", "logistics",
    "magazine", "maintenance", "media", "microlight", "modelling", "navigation", "parachuting",
    "paragliding", "passenger-association", "pilot", "press", "production", "recreation", "repbody",
    "res", "research", "rotorcraft", "safety", "scientist", "services", "show", "skydiving",
    "software", "student", "trader", "trading", "trainer", "union", "workinggroup", "works"], [],
    []⟩),
  ("af", ⟨["com", "edu", "gov", "net", "org"], [], []⟩),
  ("ag", ⟨["co", "com", "net", "nom", "org"], [], []⟩),
  ("ai", ⟨["com", "net", "off", "org", "uwu"], [], []⟩),
  ("al", ⟨["blogspot", "com", "edu", "gov", "mil", "net", "org"], [], []⟩),
  ("am", ⟨["blogspot", "co", "com", "commune", "neko", "net", "nyaa", "org", "radio"], [], []⟩),
  ("ao", ⟨["co", "ed", "gv", "it", "og", "pb"], [], []⟩),
  ("app", ⟨[
    "a.run", "bookonline", "clerk", "clerkstage", "deta", "easypanel", "edgecompute", "encr",
    "fireweb", "framer", "hasura", "loginline", "messerli", "netlify", "ngrok", "ngrok-free",
    "noop", "ondigitalocean", "onflashdrive", "platform0", "privatelink.snowflake", "run",
    "snowflake", "storipress", "streamlit", "telebit", "typedream", "vercel", "web", "wnext"],
    ["beget", "developer", "northflank"], []⟩),
  ("ar", ⟨[
    "bet", "blogspot.com", "com", "coop", "edu", "gob", "gov", "int", "mil", "musica", "mutual",
    "net", "org", "senasa", "tur"], [], []⟩),
  ("arpa", ⟨["e164", "in-addr", "ip6", "iris", "uri", "urn"], [], []⟩),
  ("as", ⟨["gov"], [], []⟩),
  ("asia", ⟨["cloudns"], [], []⟩),
  ("at", ⟨[
    "123webseite", "12hp", "2ix", "4lima", "ac", "biz", "blogspot.co", "co", "futurehosting",
    "futuremailing", "gv", "info", "lima-city", "myspreadshop", "or", "priv", "sth.ac",
    "wien.funkfeuer"],
    ["ex.futurecms", "ex.ortsinfo", "futurecms", "in.futurecms", "kunden.ortsinfo"], []⟩),
  ("au", ⟨[
    "act", "act.edu", "asn", "blogspot.com", "catholic.edu", "com", "conf", "edu", "gov", "id",
    "info", "mel.cloudlets.com", "myspreadshop.com", "net", "nsw", "nsw.edu", "nt", "nt.edu", "org",
    "oz", "qld", "qld.edu", "qld.gov", "sa", "sa.edu", "sa.gov", "schools.nsw.edu", "tas",
    "tas.edu", "tas.gov", "vic", "vic.edu", "vic.gov", "wa", "wa.edu", "wa.gov"], [], []⟩),
  ("aw", ⟨["com"], [], []⟩),
  ("ax", ⟨["be", "cat", "es", "eu", "gg", "mc", "us", "xy"], [], []⟩),
  ("az", ⟨[
    "biz", "com", "edu", "gov", "info", "int", "mil", "name", "net", "org", "pp", "pro"], [], []⟩),
  ("ba", ⟨["blogspot", "com", "edu", "gov", "mil", "net", "org", "rs"], [], []⟩),
  ("basketball", ⟨["aus", "nz"], [], []⟩),
  ("bb", ⟨["biz", "co", "com", "edu", "gov", "info", "net", "org", "store", "tv"], [], []⟩),
  ("bd", ⟨[], [""], []⟩),
  ("be", ⟨[
    "123website", "ac", "blogspot", "cloud.interhostsolutions", "ezproxy.kuleuven", "myspreadshop",
    "webhosting"], ["transurl"], []⟩),
  ("bf", ⟨["gov"], [], []⟩),
  ("bg", ⟨[
    "0", "1", "2", "3", "4", "5", "6", "7", "8", "9", "a", "b", "barsy", "blogspot", "c", "d", "e",
    "f", "g", "h", "i", "j", "k", "l", "m", "n", "o", "p", "q", "r", "s", "t", "u", "v", "w", "x",
    "y", "z"], [], []⟩),
  ("bh", ⟨["com", "edu", "gov", "net", "org"], [], []⟩),
  ("bi", ⟨["co", "com", "edu", "or", "org"], [], []⟩),
  ("biz", ⟨[
    "activetrail", "cloudns", "dscloud", "dyndns", "for-better", "for-more", "for-some", "for-the",
    "jozi", "mmafan", "myftp", "no-ip", "orx", "selfip", "webhop"], [], []⟩),
  ("bj", ⟨[
    "africa", "agro", "architectes", "assur", "avocats", "blogspot", "co", "com", "eco", "econo",
    "edu", "info", "loisirs", "money", "net", "org", "ote", "restaurant", "resto", "tourism",
    "univ"], [], []⟩),
  ("bm", ⟨["com", "edu", "gov", "net", "org"], [], []⟩),
  ("bn", ⟨["co", "com", "edu", "gov", "net", "org"], [], []⟩),
  ("bo", ⟨[
    "academia", "agro", "arte", "blog", "bolivia", "ciencia", "com", "cooperativa", "democracia",
    "deporte", "ecologia", "economia", "edu", "empresa", "gob", "indigena", "industria", "info",
    "int", "medicina", "mil", "movimiento", "musica", "natural", "net", "nombre", "noticias", "org",
    "patria", "plurinacional", "politica", "profesional", "pueblo", "revista", "salud",
    "tecnologia", "tksat", "transporte", "tv", "web", "wiki"], [], []⟩),
  ("br", ⟨[
    "9guacu", "abc", "ac.gov", "ac.leg", "adm", "adv", "agr", "aju", "al.gov", "al.leg", "am",
    "am.gov", "am.leg", "anani", "ap.gov", "ap.leg", "aparecida", "app", "arq", "art", "ato", "b",
    "ba.gov", "ba.leg", "barueri", "belem", "bhz", "bib", "bio", "blog", "blogspot.com", "bmd",
    "boavista", "bsb", "campinagrande", "campinas", "caxias", "ce.gov", "ce.leg", "cim", "cng",
    "cnt", "com", "contagem", "coop", "coz", "cri", "cuiaba", "curitiba", "def", "des", "det",
    "dev", "df.gov", "df.leg", "ecn", "eco", "edu", "emp", "enf", "eng", "es.gov", "es.leg", "esp",
    "etc", "eti", "far", "feira", "flog", "floripa", "fm", "fnd", "fortal", "fot", "foz", "fst",
    "g12", "geo", "ggf", "go.gov", "go.leg", "goiania", "gov", "gru", "imb", "ind", "inf", "jab",
    "jampa", "jdf", "joinville", "jor", "jus", "leg", "lel", "log", "londrina", "ma.gov", "ma.leg",
    "macapa", "maceio", "manaus", "maringa", "mat", "med", "mg.gov", "mg.leg", "mil", "morena",
    "mp", "ms.gov", "ms.leg", "mt.gov", "mt.leg", "mus", "natal", "net", "niteroi", "not", "ntr",
    "odo", "ong", "org", "osasco", "pa.gov", "pa.leg", "palmas", "pb.gov", "pb.leg", "pe.gov",
    "pe.leg", "pi.gov", "pi.leg", "poa", "ppg", "pr.gov", "pr.leg", "pro", "psc", "psi", "pvh",
    "qsl", "radio", "rec", "recife", "rep", "ribeirao", "rio", "riobranco", "riopreto", "rj.gov",
    "rj.leg", "rn.gov", "rn.leg", "ro.gov", "ro.leg", "rr.gov", "rr.leg", "rs.gov", "rs.leg",
    "salvador", "sampa", "santamaria", "santoandre", "saobernardo", "saogonca", "sc.gov", "sc.leg",
    "se.gov", "se.leg", "seg", "simplesite.com", "sjc", "slg", "slz", "sorocaba", "sp.gov",
    "sp.leg", "srv", "taxi", "tc", "tec", "teo", "the", "tmp", "to.gov", "to.leg", "trd", "tur",
    "tv", "udi", "vet", "vix", "vlog", "wiki", "zlg"], ["nom"], []⟩),
  ("bs", ⟨["com", "edu", "gov", "net", "org", "we"], [], []⟩),
  ("bt", ⟨["com", "edu", "gov", "net", "org"], [], []⟩),
  ("builders", ⟨["cloudsite"], [], []⟩),
  ("business", ⟨["co"], [], []⟩),
  ("bw", ⟨["co", "org"], [], []⟩),
  ("by", ⟨["blogspot.com", "com", "gov", "mediatech", "mil", "mycloud", "of"], [], []⟩),
  ("bz", ⟨["com", "edu", "gov", "gsj", "net", "org", "za"], [], []⟩),
  ("ca", ⟨[
    "ab", "barsy", "bc", "blogspot", "co", "gc", "mb", "myspreadshop", "nb", "nf", "nl", "no-ip",
    "ns", "nt", "nu", "on", "pe", "qc", "sk", "yk"], ["awdev"], []⟩),
  ("casa", ⟨["ui.nabu"], [], []⟩),
  ("cc", ⟨[
    "cloudns", "csx", "fantasyleague", "ftpaccess", "game-server", "instances.spawn", "myphotos",
    "scrapping", "twmail"], [], []⟩),
  ("cd", ⟨["gov"], [], []⟩),
  ("cf", ⟨["blogspot"], [], []⟩),
  ("ch", ⟨[
    "123website", "12hp", "2ix", "4lima", "alp1.ae.flow", "appengine.flow", "blogspot", "dnsking",
    "gotdns", "lima-city", "linkyard-cloud", "myspreadshop", "square7"],
    ["firenet", "svc.firenet"], []⟩),
  ("ci", ⟨[
    "ac", "asso", "aéroport", "co", "com", "ed", "edu", "fin", "go", "gouv", "int", "md", "net",
    "nl", "or", "org", "presse", "xn--aroport-bya"], [], []⟩),
  ("ck", ⟨[], [""], ["www"]⟩),
  ("cl", ⟨["blogspot", "co", "gob", "gov", "mil"], [], []⟩),
  ("cloud", ⟨[
    "ca.reclaim", "ch.trendhosting", "cs.keliweb", "de.trendhosting", "diadem", "elementor",
    "es-1.axarnet", "eu.encoway", "fnc.fr-par.scw", "fr-par-1.baremetal.scw",
    "fr-par-2.baremetal.scw", "functions.fnc.fr-par.scw", "it1.eur.aruba.jenv-aruba",
    "it1.jenv-aruba", "jele", "jotelulu", "k8s.fr-par.scw", "k8s.nl-ams.scw", "k8s.pl-waw.scw",
    "k8s.scw", "keliweb", "kuleuven", "linkyard", "nl-ams-1.baremetal.scw", "nodes.k8s.fr-par.scw",
    "nodes.k8s.nl-ams.scw", "nodes.k8s.pl-waw.scw", "oxa", "perspecta", "primetel",
    "priv.instances.scw", "pub.instances.scw", "ravendb", "s3-website.fr-par.scw",
    "s3-website.nl-ams.scw", "s3-website.pl-waw.scw", "s3.fr-par.scw", "s3.nl-ams.scw",
    "s3.pl-waw.scw", "scalebook.scw", "smartlabeling.scw", "tn.oxa", "trafficplex", "uk.oxa",
    "uk.primetel", "uk.reclaim", "urown", "us.reclaim", "vapor", "vip.jelastic", "voorloper",
    "whm.fr-par.scw", "whm.nl-ams.scw"],
    ["banzai", "magentosite", "on-rancher", "sensiosite", "statics"], []⟩),
  ("club", ⟨["barsy", "cloudns", "jele"], [], []⟩),
  ("cm", ⟨["co", "com", "gov", "net"], [], []⟩),
  ("cn", ⟨[
    "ac", "ah", "bj", "canva-apps", "cn-north-1.eb.amazonaws.com",
    "cn-northwest-1.eb.amazonaws.com", "com", "cq", "direct.quickconnect", "edu", "fj", "gd", "gov",
    "gs", "gx", "gz", "ha", "hb", "he", "hi", "hk", "hl", "hn", "instantcloud", "jl", "js", "jx",
    "ln", "mil", "mo", "net", "nm", "nx", "org", "qh", "s3.cn-north-1.amazonaws.com", "sc", "sd",
    "sh", "sn", "sx", "tj", "tw", "xj", "xn--55qx5d", "xn--io0a7i", "xn--od0alg", "xz", "yn", "zj",
    "公司", "網絡", "网络"], ["compute.amazonaws.com", "elb.amazonaws.com"], []⟩),
  ("co", ⟨[
    "arts", "blogspot.com", "carrd", "com", "crd", "edu", "firewalledreplit", "firm", "gov",
    "id.firewalledreplit", "id.repl", "info", "int", "leadpages", "lpages", "mil", "mypi", "n4t",
    "net", "nom", "org", "rec", "repl", "supabase", "web"], ["otap"], []⟩),
  ("codes", ⟨[], ["owo"], []⟩),
  ("com", ⟨[
    "001www", "180r", "1kapp", "3utilities", "4u", "adobeaemcloud", "africa", "airkitapps",
    "airkitapps-au", "aivencloud", "alpha-myqnapcloud", "alpha.bounty-full", "amscompute",
    "analytics-gateway.ap-northeast-1.amazonaws", "analytics-gateway.eu-west-1.amazonaws",
    "analytics-gateway.us-east-1.amazonaws", "analytics-gateway.us-east-2.amazonaws",
    "analytics-gateway.us-west-2.amazonaws", "ap-northeast-1.elasticbeanstalk",
    "ap-northeast-2.elasticbeanstalk", "ap-northeast-3.elasticbeanstalk",
    "ap-south-1.elasticbeanstalk", "ap-southeast-1.elasticbeanstalk",
    "ap-southeast-2.elasticbeanstalk", "api.stdlib", "app.lmpm", "app.render", "appchizi",
    "applinzi", "apps.fbsbx", "appspacehosted", "appspaceusercontent", "appspot", "ar",
    "authgear-staging", "authgearapps", "awsglobalaccelerator", "awsmppl", "balena-devices",
    "barsycenter", "barsyonline", "beta.bounty-full", "betainabox", "blogdns", "blogspot",
    "blogsyte", "bloxcms", "bounty-full", "boutir", "bplaced", "br", "builtwithdark",
    "ca-central-1.elasticbeanstalk", "cafjs", "canva-apps", "caracal.mythic-beasts", "cechire",
    "cf-ipfs", "ciscofreak", "cloud.nospamproxy", "cloudcontrolapp", "cloudcontrolled",
    "cloudflare-ipfs", "cn", "co", "codespot", "customer.mythic-beasts", "damnserver", "dattolocal",
    "dattorelay", "dattoweb", "ddns5", "ddnsfree", "ddnsgeek", "ddnsking", "ddnslive", "de",
    "demo.datadetect", "demo.jelastic", "dev-myqnapcloud", "discordsays", "discordsez",
    "ditchyourip", "dnsalias", "dnsdojo", "dnsiskinky", "doesntexist", "dojin", "dontexist",
    "doomdns", "dopaas", "drayddns", "dreamhosters", "dsmynas", "dyn-o-saur", "dynalias",
    "dyndns-at-home", "dyndns-at-work", "dyndns-blog", "dyndns-free", "dyndns-home", "dyndns-ip",
    "dyndns-mail", "dyndns-office", "dyndns-pics", "dyndns-remote", "dyndns-server", "dyndns-web",
    "dyndns-wiki", "dyndns-work", "dynns", "elasticbeanstalk", "encoreapi", "est-a-la-maison",
    "est-a-la-masion", "est-le-patron", "est-mon-blogueur", "eu", "eu-1.evennode", "eu-2.evennode",
    "eu-3.evennode", "eu-4.evennode", "eu-central-1.elasticbeanstalk", "eu-west-1.elasticbeanstalk",
    "eu-west-2.elasticbeanstalk", "eu-west-3.elasticbeanstalk", "eu.meteorapp", "eu.pythonanywhere",
    "familyds", "fastly-edge", "fastly-terrarium", "fastvps-server", "fentiger.mythic-beasts",
    "firebaseapp", "firewall-gateway", "fldrv", "forgeblocks", "framercanvas", "freebox-os",
    "freeboxos", "freemyip", "from-ak", "from-al", "from-ar", "from-ca", "from-ct", "from-dc",
    "from-de", "from-fl", "from-ga", "from-hi", "from-ia", "from-id", "from-il", "from-in",
    "from-ks", "from-ky", "from-ma", "from-md", "from-mi", "from-mn", "from-mo", "from-ms",
    "from-mt", "from-nc", "from-nd", "from-ne", "from-nh", "from-nj", "from-nm", "from-nv",
    "from-oh", "from-ok", "from-or", "from-pa", "from-pr", "from-ri", "from-sc", "from-sd",
    "from-tn", "from-tx", "from-ut", "from-va", "from-vt", "from-wa", "from-wi", "from-wv",
    "from-wy", "geekgalaxy", "gentapps", "gentlentapis", "getmyip", "giize", "githubusercontent",
    "gleeze", "googleapis", "googlecode", "gotdns", "gotpantheon", "gr", "health-carereform",
    "herokuapp", "herokussl", "hk", "hobby-site", "homelinux", "homesecuritymac", "homesecuritypc",
    "homeunix", "hostedpi", "hotelwithflight", "hu", "iamallama", "impertrix", "impertrixcdn",
    "instance.datadetect", "ip.linodeusercontent", "is-a-anarchist", "is-a-blogger",
    "is-a-bookkeeper", "is-a-bulls-fan", "is-a-caterer", "is-a-chef", "is-a-conservative",
    "is-a-cpa", "is-a-cubicle-slave", "is-a-democrat", "is-a-designer", "is-a-doctor",
    "is-a-financialadvisor", "is-a-geek", "is-a-green", "is-a-guru", "is-a-hard-worker",
    "is-a-hunter", "is-a-landscaper", "is-a-lawyer", "is-a-liberal", "is-a-libertarian",
    "is-a-llama", "is-a-musician", "is-a-nascarfan", "is-a-nurse", "is-a-painter",
    "is-a-personaltrainer", "is-a-photographer", "is-a-player", "is-a-republican", "is-a-rockstar",
    "is-a-socialist", "is-a-student", "is-a-teacher", "is-a-techie", "is-a-therapist",
    "is-an-accountant", "is-an-actor", "is-an-actress", "is-an-anarchist", "is-an-artist",
    "is-an-engineer", "is-an-entertainer", "is-certified", "is-gone", "is-into-anime",
    "is-into-cars", "is-into-cartoons", "is-into-games", "is-leet", "is-not-certified", "is-slick",
    "is-uberleet", "is-with-theband", "isa-geek", "isa-hockeynut", "issmarterthanyou", "it",
    "jcloud-ver-jpc.ik-server", "jcloud.ik-server", "jdevcloud", "jed.wafaicloud", "jpn",
    "js.wpenginepowered", "kasserver", "kilatiron", "kozow", "kr", "ktistory", "ladesk",
    "likes-pie", "likescandy", "logoip", "lon.wafaicloud", "loseyourip", "lpusercontent",
    "lynx.mythic-beasts", "mazeplay", "members.linode", "messwithdns", "meteorapp", "mex",
    "miniserver", "myactivedirectory", "myasustor", "mydatto", "mydobiss", "mydrobo", "myiphost",
    "myqnapcloud", "mysecuritycamera", "myshopblocks", "myshopify", "myspreadshop", "mytabit",
    "mytuleap", "myvnc", "neat-url", "net-freaks", "nfshost", "no", "ocelot.mythic-beasts",
    "on-aptible", "oncilla.mythic-beasts", "onfabrica", "onrender", "onthewifi",
    "onza.mythic-beasts", "ooguy", "operaunite", "orsites", "outsystemscloud", "ownprovider",
    "paas.hosted-by-previder", "paas.massivegrid", "pagefrontapp", "pages.wiardweb",
    "pagespeedmobilizer", "pagexl", "pgfog", "pixolino", "platter-app", "playstation-cloud",
    "pleskns", "point2this", "postman-echo", "pro.typeform", "publishproxy", "pythonanywhere",
    "qa2", "qbuser", "qc", "qualifioapp", "quicksytes", "rackmaze", "rag-cloud-ch.hosteur",
    "rag-cloud.hosteur", "remotewd", "reservd", "reserve-online", "rhcloud", "ru", "ryd.wafaicloud",
    "s3-ap-northeast-1.amazonaws", "s3-ap-northeast-2.amazonaws", "s3-ap-south-1.amazonaws",
    "s3-ap-southeast-1.amazonaws", "s3-ap-southeast-2.amazonaws", "s3-ca-central-1.amazonaws",
    "s3-eu-central-1.amazonaws", "s3-eu-west-1.amazonaws", "s3-eu-west-2.amazonaws",
    "s3-eu-west-3.amazonaws", "s3-external-1.amazonaws", "s3-fips-us-gov-west-1.amazonaws",
    "s3-sa-east-1.amazonaws", "s3-us-east-2.amazonaws", "s3-us-gov-west-1.amazonaws",
    "s3-us-west-1.amazonaws", "s3-us-west-2.amazonaws", "s3-website-ap-northeast-1.amazonaws",
    "s3-website-ap-southeast-1.amazonaws", "s3-website-ap-southeast-2.amazonaws",
    "s3-website-eu-west-1.amazonaws", "s3-website-sa-east-1.amazonaws",
    "s3-website-us-east-1.amazonaws", "s3-website-us-west-1.amazonaws",
    "s3-website-us-west-2.amazonaws", "s3-website.ap-northeast-2.amazonaws",
    "s3-website.ap-south-1.amazonaws", "s3-website.ca-central-1.amazonaws",
    "s3-website.eu-central-1.amazonaws", "s3-website.eu-west-2.amazonaws",
    "s3-website.eu-west-3.amazonaws", "s3-website.us-east-2.amazonaws", "s3.amazonaws",
    "s3.ap-northeast-2.amazonaws", "s3.ap-south-1.amazonaws", "s3.ca-central-1.amazonaws",
    "s3.dualstack.ap-northeast-1.amazonaws", "s3.dualstack.ap-northeast-2.amazonaws",
    "s3.dualstack.ap-south-1.amazonaws", "s3.dualstack.ap-southeast-1.amazonaws",
    "s3.dualstack.ap-southeast-2.amazonaws", "s3.dualstack.ca-central-1.amazonaws",
    "s3.dualstack.eu-central-1.amazonaws", "s3.dualstack.eu-west-1.amazonaws",
    "s3.dualstack.eu-west-2.amazonaws", "s3.dualstack.eu-west-3.amazonaws",
    "s3.dualstack.sa-east-1.amazonaws", "s3.dualstack.us-east-1.amazonaws",
    "s3.dualstack.us-east-2.amazonaws", "s3.eu-central-1.amazonaws", "s3.eu-west-2.amazonaws",
    "s3.eu-west-3.amazonaws", "s3.us-east-2.amazonaws", "sa", "sa-east-1.elasticbeanstalk",
    "sakuratan", "sakuraweb", "saves-the-whales", "scrysec", "securitytactics", "selfip",
    "sells-for-less", "sells-for-u", "servebbs", "servebeer", "servecounterstrike", "serveexchange",
    "serveftp", "servegame", "servehalflife", "servehttp", "servehumour", "serveirc", "servemp3",
    "servep2p", "servepics", "servequake", "servesarcasm", "shopitsite", "siiites", "simple-url",
    "simplesite", "sinaapp", "site.tb-hosting", "skygearapp", "smushcdn", "space-to-rent",
    "sphinx.mythic-beasts", "stackhero-network", "static.observableusercontent", "streamlitapp",
    "stufftoread", "teaches-yoga", "temp-dns", "theworkpc", "thingdustdata", "townnews-staging",
    "try-snowplow", "trycloudflare", "tuleap-partners", "u2-local.xnbay", "u2.xnbay", "uk",
    "unusualperson", "us", "us-1.evennode", "us-2.evennode", "us-3.evennode", "us-4.evennode",
    "us-east-1.amazonaws", "us-east-1.elasticbeanstalk", "us-east-2.elasticbeanstalk",
    "us-gov-west-1.elasticbeanstalk", "us-west-1.elasticbeanstalk", "us-west-2.elasticbeanstalk",
    "uy", "vfs.cloud9.af-south-1.amazonaws", "vfs.cloud9.ap-east-1.amazonaws",
    "vfs.cloud9.ap-northeast-1.amazonaws", "vfs.cloud9.ap-northeast-2.amazonaws",
    "vfs.cloud9.ap-northeast-3.amazonaws", "vfs.cloud9.ap-south-1.amazonaws",
    "vfs.cloud9.ap-southeast-1.amazonaws", "vfs.cloud9.ap-southeast-2.amazonaws",
    "vfs.cloud9.ca-central-1.amazonaws", "vfs.cloud9.eu-central-1.amazonaws",
    "vfs.cloud9.eu-north-1.amazonaws", "vfs.cloud9.eu-south-1.amazonaws",
    "vfs.cloud9.eu-west-1.amazonaws", "vfs.cloud9.eu-west-2.amazonaws",
    "vfs.cloud9.eu-west-3.amazonaws", "vfs.cloud9.me-south-1.amazonaws",
    "vfs.cloud9.sa-east-1.amazonaws", "vfs.cloud9.us-east-1.amazonaws",
    "vfs.cloud9.us-east-2.amazonaws", "vfs.cloud9.us-west-1.amazonaws",
    "vfs.cloud9.us-west-2.amazonaws", "vipsinaapp", "vs.mythic-beasts", "wafflecell",
    "webview-assets.aws-cloud9.af-south-1.amazonaws",
    "webview-assets.aws-cloud9.ap-east-1.amazonaws",
    "webview-assets.aws-cloud9.ap-northeast-1.amazonaws",
    "webview-assets.aws-cloud9.ap-northeast-2.amazonaws",
    "webview-assets.aws-cloud9.ap-northeast-3.amazonaws",
    "webview-assets.aws-cloud9.ap-south-1.amazonaws",
    "webview-assets.aws-cloud9.ap-southeast-1.amazonaws",
    "webview-assets.aws-cloud9.ap-southeast-2.amazonaws",
    "webview-assets.aws-cloud9.ca-central-1.amazonaws",
    "webview-assets.aws-cloud9.eu-central-1.amazonaws",
    "webview-assets.aws-cloud9.eu-north-1.amazonaws",
    "webview-assets.aws-cloud9.eu-south-1.amazonaws",
    "webview-assets.aws-cloud9.eu-west-1.amazonaws",
    "webview-assets.aws-cloud9.eu-west-2.amazonaws",
    "webview-assets.aws-cloud9.eu-west-3.amazonaws",
    "webview-assets.aws-cloud9.me-south-1.amazonaws",
    "webview-assets.aws-cloud9.sa-east-1.amazonaws",
    "webview-assets.aws-cloud9.us-east-1.amazonaws",
    "webview-assets.aws-cloud9.us-east-2.amazonaws",
    "webview-assets.aws-cloud9.us-west-1.amazonaws",
    "webview-assets.aws-cloud9.us-west-2.amazonaws", "webview-assets.cloud9.af-south-1.amazonaws",
    "webview-assets.cloud9.ap-east-1.amazonaws", "webview-assets.cloud9.ap-northeast-1.amazonaws",
    "webview-assets.cloud9.ap-northeast-2.amazonaws",
    "webview-assets.cloud9.ap-northeast-3.amazonaws", "webview-assets.cloud9.ap-south-1.amazonaws",
    "webview-assets.cloud9.ap-southeast-1.amazonaws",
    "webview-assets.cloud9.ap-southeast-2.amazonaws",
    "webview-assets.cloud9.ca-central-1.amazonaws", "webview-assets.cloud9.eu-central-1.amazonaws",
    "webview-assets.cloud9.eu-north-1.amazonaws", "webview-assets.cloud9.eu-south-1.amazonaws",
    "webview-assets.cloud9.eu-west-1.amazonaws", "webview-assets.cloud9.eu-west-2.amazonaws",
    "webview-assets.cloud9.eu-west-3.amazonaws", "webview-assets.cloud9.me-south-1.amazonaws",
    "webview-assets.cloud9.sa-east-1.amazonaws", "webview-assets.cloud9.us-east-1.amazonaws",
    "webview-assets.cloud9.us-east-2.amazonaws", "webview-assets.cloud9.us-west-1.amazonaws",
    "webview-assets.cloud9.us-west-2.amazonaws", "withgoogle", "withyoutube", "wixsite",
    "woltlab-demo", "workisboring", "wpdevcloud", "wpenginepowered", "wphostedmail", "wpmucdn",
    "writesthisblog", "x.mythic-beasts", "x0", "xen.prgmr", "xnbay", "yali.mythic-beasts",
    "yolasite", "za"],
    [
    "0emm", "builder.code", "cns.joyent", "compute-1.amazonaws", "compute.amazonaws",
    "customer-oci", "dev-builder.code", "dev.adobeaemcloud", "devcdnaccesso", "digitaloceanspaces",
    "elb.amazonaws", "linodeobjects", "nodebalancer.linode", "oci.customer-oci", "ocp.customer-oci",
    "ocs.customer-oci", "paywhirl", "quipelements", "r.appspot", "stg-builder.code",
    "vultrobjects"], []⟩),
  ("community", ⟨["myforum", "nog", "ravendb"], [], []⟩),
  ("cool", ⟨["de", "elementor"], [], []⟩),
  ("cr", ⟨["ac", "co", "ed", "fi", "go", "or", "sa"], [], []⟩),
  ("cu", ⟨["com", "edu", "gov", "inf", "net", "org"], [], []⟩),
  ("cv", ⟨["blogspot", "com", "edu", "int", "nome", "org"], [], []⟩),
  ("cw", ⟨["com", "edu", "net", "org"], [], []⟩),
  ("cx", ⟨["ath", "gov", "info"], [], []⟩),
  ("cy", ⟨[
    "ac", "biz", "blogspot.com", "com", "ekloges", "gov", "j.scaleforce.com", "ltd", "mil", "net",
    "org", "press", "pro", "tm"], [], []⟩),
  ("cz", ⟨[
    "blogspot", "co", "custom.metacentrum", "e4", "flt.cloud.muni", "realm", "usr.cloud.muni"],
    ["cloud.metacentrum"], []⟩),
  ("de", ⟨[
    "123webseite", "12hp", "2ix", "4lima", "barsy", "blogspot", "bplaced", "com", "community-pro",
    "customer.speedpartner", "dd-dns", "ddnss", "diskussionsbereich", "dnshome", "dnsupdater",
    "dray-dns", "draydns", "dyn-berlin", "dyn-ip24", "dyn-vpn", "dyn.cosidns", "dyn.ddnss",
    "dyn.home-webserver", "dynamisches-dns", "dyndns.ddnss", "dyndns1", "dynvpn",
    "firewall-gateway", "fuettertdasnetz", "git-repos", "goip", "günstigbestellen",
    "günstigliefern", "home-webserver", "in-berlin", "in-brb", "in-butter", "in-dsl", "in-vpn",
    "internet-dns", "iservschule", "isteingeek", "istmein", "keymachine", "l-o-g-i-n",
    "lcube-server", "lebtimnetz", "leitungsen", "lima-city", "logoip", "mein-iserv", "mein-vigor",
    "my-gateway", "my-router", "my-vigor", "my-wan", "myhome-server", "myspreadshop",
    "pages.it.hs-heilbronn", "schulplattform", "schulserver", "spdns", "square7", "svn-repos",
    "syno-ds", "synology-diskstation", "synology-ds", "taifun-dns", "test-iserv", "traeumtgerade",
    "virtual-user", "virtualuser", "xn--gnstigbestellen-zvb", "xn--gnstigliefern-wob"],
    ["frusky", "uberspace"], []⟩),
  ("design", ⟨["bss"], [], []⟩),
  ("dev", ⟨[
    "autocode", "curv", "deno", "deno-staging", "deta", "fly", "githubpreview", "iserv",
    "loginline", "mediatech", "ngrok", "ngrok-free", "pages", "platter-app", "r2", "shiftcrypto",
    "vercel", "workers"],
    ["gateway", "lcl", "lclstage", "stg", "stgstage", "user.localcert", "webhare"], []⟩),
  ("digital", ⟨["cloudapps", "london.cloudapps"], [], []⟩),
  ("dk", ⟨[
    "123hjemmeside", "biz", "blogspot", "co", "firm", "myspreadshop", "reg", "store"], [], []⟩),
  ("dm", ⟨["com", "edu", "gov", "net", "org"], [], []⟩),
  ("do", ⟨["art", "com", "edu", "gob", "gov", "mil", "net", "org", "sld", "web"], [], []⟩),
  ("dz", ⟨["art", "asso", "com", "edu", "gov", "net", "org", "pol", "soc", "tm"], [], []⟩),
  ("earth", ⟨[], ["bzz.dapps", "dapps"], []⟩),
  ("ec", ⟨[
    "base", "com", "edu", "fin", "gob", "gov", "info", "k12", "med", "mil", "net", "official",
    "org", "pro"], [], []⟩),
  ("edu", ⟨["git-pages.rit"], [], []⟩),
  ("education", ⟨["co"], [], []⟩),
  ("ee", ⟨[
    "aip", "blogspot.com", "com", "edu", "fie", "gov", "lib", "med", "org", "pri", "riik"], [],
    []⟩),
  ("eg", ⟨[
    "blogspot.com", "com", "edu", "eun", "gov", "mil", "name", "net", "org", "sci"], [], []⟩),
  ("er", ⟨[], [""], []⟩),
  ("es", ⟨[
    "123miweb", "blogspot.com", "com", "edu", "gob", "myspreadshop", "nom", "org"], [], []⟩),
  ("estate", ⟨[], ["compute"], []⟩),
  ("et", ⟨["biz", "com", "edu", "gov", "info", "name", "net", "org"], [], []⟩),
  ("eu", ⟨[
    "airkitapps", "barsy", "cloudns", "diskstation", "jelastic.dogado", "mycd", "spdns",
    "wellbeingzone"], ["transurl"], []⟩),
  ("eus", ⟨["user.party"], [], []⟩),
  ("events", ⟨["co", "koobin"], [], []⟩),
  ("faith", ⟨["ybo"], [], []⟩),
  ("farm", ⟨["storj"], [], []⟩),
  ("fi", ⟨[
    "123kotisivu", "aland", "blogspot", "demo.datacenter", "dy", "fi.cloudplatform", "häkkinen",
    "iki", "kapsi", "myspreadshop", "paas.datacenter", "xn--hkkinen-5wa"], [], []⟩),
  ("financial", ⟨["co"], [], []⟩),
  ("fj", ⟨["ac", "biz", "com", "gov", "info", "mil", "name", "net", "org", "pro"], [], []⟩),
  ("fk", ⟨[], [""], []⟩),
  ("fm", ⟨["com", "edu", "net", "org", "radio"], ["user"], []⟩),
  ("fr", ⟨[
    "123siteweb", "aeroport", "asso", "avocat", "avoues", "blogspot", "cci", "chambagri",
    "chirurgiens-dentistes", "chirurgiens-dentistes-en-france", "com", "dedibox", "en-root",
    "experts-comptables", "fbx-os", "fbxos", "freebox-os", "freeboxos", "goupile", "gouv", "greta",
    "huissier-justice", "medecin", "myspreadshop", "nom", "notaires", "on-web", "pharmacien",
    "port", "prd", "tm", "veterinaire", "ynh"], [], []⟩),
  ("gd", ⟨["edu", "gov"], [], []⟩),
  ("gdn", ⟨["cnpy"], [], []⟩),
  ("ge", ⟨["com", "edu", "gov", "mil", "net", "org", "pvt"], [], []⟩),
  ("gg", ⟨["co", "cya", "daemon.panel", "kaas", "net", "org", "panel"], [], []⟩),
  ("gh", ⟨["com", "edu", "gov", "mil", "org"], [], []⟩),
  ("gi", ⟨["com", "edu", "gov", "ltd", "mod", "org"], [], []⟩),
  ("gl", ⟨["biz", "co", "com", "edu", "net", "org", "xx"], [], []⟩),
  ("gn", ⟨["ac", "com", "edu", "gov", "net", "org"], [], []⟩),
  ("goog", ⟨["cloud", "translate"], ["usercontent"], []⟩),
  ("gp", ⟨["app", "asso", "com", "edu", "mobi", "net", "org"], [], []⟩),
  ("gr", ⟨["blogspot", "com", "edu", "gov", "net", "org", "simplesite"], [], []⟩),
  ("group", ⟨["discourse"], [], []⟩),
  ("gt", ⟨["blog", "com", "de", "edu", "gob", "ind", "mil", "net", "org", "to"], [], []⟩),
  ("gu", ⟨["com", "edu", "gov", "guam", "info", "net", "org", "web"], [], []⟩),
  ("gy", ⟨["be", "co", "com", "edu", "gov", "net", "org"], [], []⟩),
  ("health", ⟨["hra"], [], []⟩),
  ("hk", ⟨[
    "blogspot", "com", "edu", "gov", "idv", "inc", "ltd", "net", "org", "secaas", "xn--55qx5d",
    "xn--ciqpn", "xn--gmq050i", "xn--gmqw5a", "xn--io0a7i", "xn--lcvr32d", "xn--mk0axi",
    "xn--mxtq1m", "xn--od0alg", "xn--od0aq3b", "xn--tn0ag", "xn--uc0atv", "xn--uc0ay4a",
    "xn--wcvs22d", "xn--zf0avx", "个人", "個人", "公司", "政府", "敎育", "教育", "箇人", "組織", "組织", "網絡", "網络",
    "组織", "组织", "网絡", "网络"], [], []⟩),
  ("hn", ⟨["cc", "com", "edu", "gob", "mil", "net", "org"], [], []⟩),
  ("host", ⟨[
    "cloudaccess", "easypanel", "fastvps", "freesite", "half", "jele", "mircloud", "myfast",
    "pcloud", "tempurl", "wpmudev"], [], []⟩),
  ("hosting", ⟨["opencraft"], [], []⟩),
  ("hr", ⟨["blogspot", "com", "free", "from", "iz", "name"], [], []⟩),
  ("ht", ⟨[
    "adult", "art", "asso", "com", "coop", "edu", "firm", "gouv", "info", "med", "net", "org",
    "perso", "pol", "pro", "rel", "shop"], [], []⟩),
  ("hu", ⟨[
    "2000", "agrar", "blogspot", "bolt", "casino", "city", "co", "erotica", "erotika", "film",
    "forum", "games", "hotel", "info", "ingatlan", "jogasz", "konyvelo", "lakas", "media", "news",
    "org", "priv", "reklam", "sex", "shop", "sport", "suli", "szex", "tm", "tozsde", "utazas",
    "video"], [], []⟩),
  ("id", ⟨[
    "ac", "biz", "blogspot.co", "co", "desa", "flap", "forte", "go", "mil", "my", "net", "or",
    "ponpes", "sch", "web"], ["rss.my"], []⟩),
  ("ie", ⟨["blogspot", "gov", "myspreadshop"], [], []⟩),
  ("il", ⟨[
    "ac", "blogspot.co", "co", "gov", "idf", "k12", "muni", "mytabit.co", "net", "org",
    "ravpage.co", "tabitorder.co"], [], []⟩),
  ("im", ⟨["ac", "co", "com", "ltd.co", "net", "org", "plc.co", "ro", "tt", "tv"], [], []⟩),
  ("in", ⟨[
    "5g", "6g", "ac", "ai", "am", "barsy", "bihar", "biz", "blogspot", "business", "ca", "cloudns",
    "cn", "co", "com", "coop", "cs", "delhi", "dr", "edu", "er", "firm", "gen", "gov", "gujarat",
    "ind", "info", "int", "internet", "io", "me", "mil", "net", "nic", "org", "pg", "post", "pro",
    "res", "supabase", "travel", "tv", "uk", "up", "us", "web"], [], []⟩),
  ("info", ⟨[
    "barrel-of-knowledge", "barrell-of-knowledge", "barsy", "cloudns", "dnsupdate", "dvrcam",
    "dynamic-dns", "dyndns", "for-our", "forumz", "groks-the", "groks-this", "here-for-more",
    "ilovecollege", "knowsitall", "mayfirst", "no-ip", "nsupdate", "selfip", "v-info", "webhop"],
    [], []⟩),
  ("int", ⟨["eu"], [], []⟩),
  ("io", ⟨[
    "2038", "ap.ngrok", "apigee", "app.banzaicloud", "apps.lair", "au.ngrok", "b-data",
    "backplaneapp", "barsy", "basicserver", "beagleboard", "bitbucket", "bluebite", "boxfuse",
    "browsersafetymark", "cleverapps", "cloud-fr1.unispace", "com", "cust.dev.thingdust",
    "cust.disrec.thingdust", "cust.prod.thingdust", "cust.testing.thingdust", "dedyn", "definima",
    "devices.resinstaging", "drud", "dyn53", "dyndns.dappnode", "editorx", "edugit", "eu.ngrok",
    "fh-muenster", "g.vbrplsbx", "ghost", "github", "gitlab", "hasura-app", "hostyhosting", "hzc",
    "id.forgerock", "in.ngrok", "jele", "jp.ngrok", "loginline", "lolipop", "mo-siemens",
    "mock.pstmn", "musician", "ngrok", "nid", "paas.beebyte", "pantheonsite", "protonet", "pstmn",
    "qcx", "qoto", "readthedocs", "reservd.dev.thingdust", "reservd.disrec.thingdust",
    "reservd.testing.thingdust", "resindevice", "sa.ngrok", "sandcats", "sekd1.beebyteapp",
    "shiftcrypto", "shiftedit", "shw", "spacekit", "stage.nodeart", "telebit", "tickets",
    "uk0.bigv", "upli", "us.ngrok", "utwente", "vaporcloud", "virtualserver", "webthings",
    "wedeploy", "wixstudio"],
    [
    "azurecontainer", "backyards.banzaicloud", "moonscale", "on-acorn", "on-k3s", "on-rio", "s5y",
    "stolos", "sys.qcx"], []⟩),
  ("iq", ⟨["com", "edu", "gov", "mil", "net", "org"], [], []⟩),
  ("ir", ⟨[
    "ac", "co", "gov", "id", "net", "org", "sch", "xn--mgba3a4f16a", "xn--mgba3a4fra", "ايران",
    "ایران"], [], []⟩),
  ("is", ⟨["blogspot", "com", "cupcake", "edu", "gov", "int", "net", "org"], [], []⟩),
  ("it", ⟨[
    "123homepage", "16-b", "32-b", "64-b", "abr", "abruzzo", "ag", "agrigento", "al", "alessandria",
    "alto-adige", "altoadige", "an", "ancona", "andria-barletta-trani", "andria-trani-barletta",
    "andriabarlettatrani", "andriatranibarletta", "ao", "aosta", "aosta-valley", "aostavalley",
    "aoste", "ap", "aq", "aquila", "ar", "arezzo", "ascoli-piceno", "ascolipiceno", "asti", "at",
    "av", "avellino", "ba", "balsan", "balsan-sudtirol", "balsan-suedtirol", "balsan-südtirol",
    "bari", "barletta-trani-andria", "barlettatraniandria", "bas", "basilicata", "belluno",
    "benevento", "bergamo", "bg", "bi", "biella", "bl", "blogspot", "bn", "bo", "bologna",
    "bolzano", "bolzano-altoadige", "bozen", "bozen-sudtirol", "bozen-suedtirol", "bozen-südtirol",
    "br", "brescia", "brindisi", "bs", "bt", "bulsan", "bulsan-sudtirol", "bulsan-suedtirol",
    "bulsan-südtirol", "bz", "ca", "cagliari", "cal", "calabria", "caltanissetta", "cam",
    "campania", "campidano-medio", "campidanomedio", "campobasso", "carbonia-iglesias",
    "carboniaiglesias", "carrara-massa", "carraramassa", "caserta", "catania", "catanzaro", "cb",
    "ce", "cesena-forli", "cesena-forlì", "cesenaforli", "cesenaforlì", "ch", "chieti", "ci", "cl",
    "cloud.jelastic.open.tim", "cn", "co", "como", "cosenza", "cr", "cremona", "crotone", "cs",
    "ct", "cuneo", "cz", "dell-ogliastra", "dellogliastra", "edu", "emilia-romagna",
    "emiliaromagna", "emr", "en", "enna", "fc", "fe", "fermo", "ferrara", "fg", "fi", "firenze",
    "florence", "fm", "foggia", "forli-cesena", "forlicesena", "forlì-cesena", "forlìcesena", "fr",
    "friuli-v-giulia", "friuli-ve-giulia", "friuli-vegiulia", "friuli-venezia-giulia",
    "friuli-veneziagiulia", "friuli-vgiulia", "friuliv-giulia", "friulive-giulia", "friulivegiulia",
    "friulivenezia-giulia", "friuliveneziagiulia", "friulivgiulia", "frosinone", "fvg", "ge",
    "genoa", "genova", "go", "gorizia", "gov", "gr", "grosseto", "ibxos", "iglesias-carbonia",
    "iglesiascarbonia", "iliadboxos", "im", "imperia", "is", "isernia", "jc.neen", "kr",
    "la-spezia", "laquila", "laspezia", "latina", "laz", "lazio", "lc", "le", "lecce", "lecco",
    "li", "lig", "liguria", "livorno", "lo", "lodi", "lom", "lombardia", "lombardy", "lt", "lu",
    "lucania", "lucca", "macerata", "mantova", "mar", "marche", "massa-carrara", "massacarrara",
    "matera", "mb", "mc", "me", "medio-campidano", "mediocampidano", "messina", "mi", "milan",
    "milano", "mn", "mo", "modena", "mol", "molise", "monza", "monza-brianza",
    "monza-e-della-brianza", "monzabrianza", "monzaebrianza", "monzaedellabrianza", "ms", "mt",
    "myspreadshop", "na", "naples", "napoli", "no", "novara", "nu", "nuoro", "og", "ogliastra",
    "olbia-tempio", "olbiatempio", "or", "oristano", "ot", "pa", "padova", "padua", "palermo",
    "parma", "pavia", "pc", "pd", "pe", "perugia", "pesaro-urbino", "pesarourbino", "pescara", "pg",
    "pi", "piacenza", "piedmont", "piemonte", "pisa", "pistoia", "pmn", "pn", "po", "pordenone",
    "potenza", "pr", "prato", "pt", "pu", "pug", "puglia", "pv", "pz", "ra", "ragusa", "ravenna",
    "rc", "re", "reggio-calabria", "reggio-emilia", "reggiocalabria", "reggioemilia", "rg", "ri",
    "rieti", "rimini", "rm", "rn", "ro", "roma", "rome", "rovigo", "sa", "salerno", "sar",
    "sardegna", "sardinia", "sassari", "savona", "si", "sic", "sicilia", "sicily", "siena",
    "siracusa", "so", "sondrio", "sp", "sr", "ss", "suedtirol", "sv", "syncloud", "südtirol", "ta",
    "taa", "taranto", "te", "tempio-olbia", "tempioolbia", "teramo", "terni", "tn", "to", "torino",
    "tos", "toscana", "tp", "tr", "trani-andria-barletta", "trani-barletta-andria",
    "traniandriabarletta", "tranibarlettaandria", "trapani", "trentin-sud-tirol",
    "trentin-sudtirol", "trentin-sued-tirol", "trentin-suedtirol", "trentin-süd-tirol",
    "trentin-südtirol", "trentino", "trentino-a-adige", "trentino-aadige", "trentino-alto-adige",
    "trentino-altoadige", "trentino-s-tirol", "trentino-stirol", "trentino-sud-tirol",
    "trentino-sudtirol", "trentino-sued-tirol", "trentino-suedtirol", "trentino-süd-tirol",
    "trentino-südtirol", "trentinoa-adige", "trentinoaadige", "trentinoalto-adige",
    "trentinoaltoadige", "trentinos-tirol", "trentinostirol", "trentinosud-tirol",
    "trentinosudtirol", "trentinosued-tirol", "trentinosuedtirol", "trentinosüd-tirol",
    "trentinosüdtirol", "trentinsud-tirol", "trentinsudtirol", "trentinsued-tirol",
    "trentinsuedtirol", "trentinsüd-tirol", "trentinsüdtirol", "trento", "treviso", "trieste", "ts",
    "turin", "tuscany", "tv", "ud", "udine", "umb", "umbria", "urbino-pesaro", "urbinopesaro", "va",
    "val-d-aosta", "val-daosta", "vald-aosta", "valdaosta", "valle-aosta", "valle-d-aosta",
    "valle-daosta", "valleaosta", "valled-aosta", "valledaosta", "vallee-aoste", "vallee-d-aoste",
    "valleeaoste", "valleedaoste", "vallée-aoste", "vallée-d-aoste", "valléeaoste", "valléedaoste",
    "vao", "varese", "vb", "vc", "vda", "ve", "ven", "veneto", "venezia", "venice", "verbania",
    "vercelli", "verona", "vi", "vibo-valentia", "vibovalentia", "vicenza", "viterbo", "vr", "vs",
    "vt", "vv", "xn--balsan-sdtirol-nsb", "xn--bozen-sdtirol-2ob", "xn--bulsan-sdtirol-nsb",
    "xn--cesena-forl-mcb", "xn--cesenaforl-i8a", "xn--forl-cesena-fcb", "xn--forlcesena-c8a",
    "xn--sdtirol-n2a", "xn--trentin-sd-tirol-rzb", "xn--trentin-sdtirol-7vb",
    "xn--trentino-sd-tirol-c3b", "xn--trentino-sdtirol-szb", "xn--trentinosd-tirol-rzb",
    "xn--trentinosdtirol-7vb", "xn--trentinsd-tirol-6vb", "xn--trentinsdtirol-nsb",
    "xn--valle-aoste-ebb", "xn--valle-d-aoste-ehb", "xn--valleaoste-e7a", "xn--valledaoste-ebb"],
    [], []⟩),
  ("je", ⟨["co", "net", "of", "org"], [], []⟩),
  ("jm", ⟨[], [""], []⟩),
  ("jo", ⟨["com", "edu", "gov", "mil", "name", "net", "org", "sch"], [], []⟩),
  ("jp", ⟨[
    "2-d", "abashiri.hokkaido", "abeno.osaka", "abiko.chiba", "abira.hokkaido", "abu.yamaguchi",
    "ac", "achi.nagano", "ad", "adachi.tokyo", "aga.niigata", "agano.niigata", "agematsu.nagano",
    "aguni.okinawa", "aibetsu.hokkaido", "aichi", "aikawa.kanagawa", "ainan.ehime", "aioi.hyogo",
    "aisai.aichi", "aisho.shiga", "aizubange.fukushima", "aizumi.tokushima", "aizumisato.fukushima",
    "aizuwakamatsu.fukushima", "akabira.hokkaido", "akagi.shimane", "akaiwa.okayama",
    "akashi.hyogo", "aki.kochi", "akiruno.tokyo", "akishima.tokyo", "akita", "akita.akita",
    "akkeshi.hokkaido", "ako.hyogo", "akune.kagoshima", "ama.aichi", "ama.shimane",
    "amagasaki.hyogo", "amakusa.kumamoto", "amami.kagoshima", "ami.ibaraki", "anamizu.ishikawa",
    "anan.nagano", "anan.tokushima", "ando.nara", "angry", "anjo.aichi", "annaka.gunma",
    "anpachi.gifu", "aogaki.hyogo", "aogashima.tokyo", "aoki.nagano", "aomori", "aomori.aomori",
    "arai.shizuoka", "arakawa.saitama", "arakawa.tokyo", "arao.kumamoto", "ariake.saga",
    "arida.wakayama", "aridagawa.wakayama", "arita.saga", "asago.hyogo", "asahi.chiba",
    "asahi.ibaraki", "asahi.mie", "asahi.nagano", "asahi.toyama", "asahi.yamagata",
    "asahikawa.hokkaido", "asaka.saitama", "asakawa.fukushima", "asakuchi.okayama",
    "asaminami.hiroshima", "ashibetsu.hokkaido", "ashikaga.tochigi", "ashiya.fukuoka",
    "ashiya.hyogo", "ashoro.hokkaido", "aso.kumamoto", "assabu.hokkaido", "asuke.aichi",
    "atami.shizuoka", "atsugi.kanagawa", "atsuma.hokkaido", "awaji.hyogo", "aya.miyazaki",
    "ayabe.kyoto", "ayagawa.kagawa", "ayase.kanagawa", "azumino.nagano", "babyblue", "babymilk",
    "backdrop", "bambina", "bandai.fukushima", "bando.ibaraki", "bato.tochigi", "beppu.oita",
    "bibai.hokkaido", "biei.hokkaido", "bifuka.hokkaido", "bihoro.hokkaido", "biratori.hokkaido",
    "bitter", "bizen.okayama", "blogspot", "blush", "bona", "boo", "boy", "boyfriend",
    "bungoono.oita", "bungotakada.oita", "bunkyo.tokyo", "but", "buyshop", "buzen.fukuoka",
    "candypop", "capoo", "catfood", "cheap", "chiba", "chicappa", "chichibu.saitama",
    "chigasaki.kanagawa", "chihayaakasaka.osaka", "chijiwa.nagasaki", "chikugo.fukuoka",
    "chikuho.fukuoka", "chikuhoku.nagano", "chikujo.fukuoka", "chikuma.nagano", "chikusei.ibaraki",
    "chikushino.fukuoka", "chikuzen.fukuoka", "chillout", "chino.nagano", "chippubetsu.hokkaido",
    "chips", "chiryu.aichi", "chita.aichi", "chitose.hokkaido", "chiyoda.gunma", "chiyoda.tokyo",
    "chizu.tottori", "chofu.tokyo", "chonan.chiba", "chosei.chiba", "choshi.chiba", "chowder",
    "choyo.kumamoto", "chu", "chuo.chiba", "chuo.fukuoka", "chuo.osaka", "chuo.tokyo",
    "chuo.yamanashi", "ciao", "co", "cocotte", "coolblog", "cranky", "crap", "cutegirl", "daa",
    "daigo.ibaraki", "daisen.akita", "daito.osaka", "daiwa.hiroshima", "date.fukushima",
    "date.hokkaido", "daynight", "dazaifu.fukuoka", "deca", "deci", "digick", "doshi.yamanashi",
    "ebetsu.hokkaido", "ebina.kanagawa", "ebino.miyazaki", "echizen.fukui", "ed", "edogawa.tokyo",
    "eek", "egoism", "ehime", "eiheiji.fukui", "embetsu.hokkaido", "ena.gifu", "eniwa.hokkaido",
    "erimo.hokkaido", "esan.hokkaido", "esashi.hokkaido", "etajima.hiroshima", "fakefur",
    "fashionstore", "fem", "flier", "flop", "floppy", "fool", "frenchkiss", "fuchu.hiroshima",
    "fuchu.tokyo", "fuchu.toyama", "fudai.iwate", "fuefuki.yamanashi", "fuji.shizuoka",
    "fujieda.shizuoka", "fujiidera.osaka", "fujikawa.shizuoka", "fujikawa.yamanashi",
    "fujikawaguchiko.yamanashi", "fujimi.nagano", "fujimi.saitama", "fujimino.saitama",
    "fujinomiya.shizuoka", "fujioka.gunma", "fujisato.akita", "fujisawa.iwate", "fujisawa.kanagawa",
    "fujishiro.ibaraki", "fujiyoshida.yamanashi", "fukagawa.hokkaido", "fukaya.saitama",
    "fukuchi.fukuoka", "fukuchiyama.kyoto", "fukudomi.saga", "fukui", "fukui.fukui",
    "fukumitsu.toyama", "fukuoka", "fukuroi.shizuoka", "fukusaki.hyogo", "fukushima",
    "fukushima.fukushima", "fukushima.hokkaido", "fukuyama.hiroshima", "funabashi.chiba",
    "funagata.yamagata", "funahashi.toyama", "furano.hokkaido", "furubira.hokkaido",
    "furudono.fukushima", "furukawa.miyagi", "fuso.aichi", "fussa.tokyo", "futaba.fukushima",
    "futsu.nagasaki", "futtsu.chiba", "gamagori.aichi", "gamo.shiga", "gehirn.ne", "geisei.kochi",
    "genkai.saga", "gifu", "gifu.gifu", "ginan.gifu", "ginowan.okinawa", "ginoza.okinawa",
    "girlfriend", "girly", "gloomy", "go", "gobo.wakayama", "godo.gifu", "gojome.akita",
    "gokase.miyazaki", "gonna", "gonohe.aomori", "gose.nara", "gosen.niigata", "goshiki.hyogo",
    "gotemba.shizuoka", "goto.nagasaki", "gotsu.shimane", "gr", "greater", "gujo.gifu", "gunma",
    "gushikami.okinawa", "gyokuto.kumamoto", "habikino.osaka", "haboro.hokkaido", "hacca",
    "hachijo.tokyo", "hachinohe.aomori", "hachioji.tokyo", "hachirogata.akita", "hadano.kanagawa",
    "haebaru.okinawa", "haga.tochigi", "hagi.yamaguchi", "haibara.shizuoka", "hakata.fukuoka",
    "hakodate.hokkaido", "hakone.kanagawa", "hakuba.nagano", "hakui.ishikawa", "hakusan.ishikawa",
    "halfmoon", "hamada.shimane", "hamamatsu.shizuoka", "hamatama.saga", "hamatonbetsu.hokkaido",
    "hamura.tokyo", "hanamaki.iwate", "hanamigawa.chiba", "hanawa.fukushima", "handa.aichi",
    "handcrafted", "hannan.osaka", "hanno.saitama", "hanyu.saitama", "happou.akita", "hara.nagano",
    "harima.hyogo", "hasama.oita", "hasami.nagasaki", "hashikami.aomori", "hashima.gifu",
    "hashimoto.wakayama", "hasuda.saitama", "hatogaya.saitama", "hatoyama.saitama",
    "hatsukaichi.hiroshima", "hayakawa.yamanashi", "hayashima.okayama", "hazu.aichi", "heavy",
    "heguri.nara", "hekinan.aichi", "her", "hichiso.gifu", "hida.gifu", "hidaka.hokkaido",
    "hidaka.kochi", "hidaka.saitama", "hidaka.wakayama", "higashi.fukuoka", "higashi.fukushima",
    "higashi.okinawa", "higashiagatsuma.gunma", "higashichichibu.saitama",
    "higashihiroshima.hiroshima", "higashiizu.shizuoka", "higashiizumo.shimane",
    "higashikagawa.kagawa", "higashikagura.hokkaido", "higashikawa.hokkaido", "higashikurume.tokyo",
    "higashimatsushima.miyagi", "higashimatsuyama.saitama", "higashimurayama.tokyo",
    "higashinaruse.akita", "higashine.yamagata", "higashiomi.shiga", "higashiosaka.osaka",
    "higashishirakawa.gifu", "higashisumiyoshi.osaka", "higashitsuno.kochi", "higashiura.aichi",
    "higashiyama.kyoto", "higashiyamato.tokyo", "higashiyodogawa.osaka", "higashiyoshino.nara",
    "hiho", "hiji.oita", "hikari.yamaguchi", "hikawa.shimane", "hikimi.shimane", "hikone.shiga",
    "himeji.hyogo", "himeshima.oita", "himi.toyama", "hino.tokyo", "hino.tottori", "hinode.tokyo",
    "hinohara.tokyo", "hioki.kagoshima", "hippy", "hirado.nagasaki", "hiraizumi.iwate",
    "hirakata.osaka", "hiranai.aomori", "hirara.okinawa", "hirata.fukushima", "hiratsuka.kanagawa",
    "hiraya.nagano", "hirogawa.wakayama", "hirokawa.fukuoka", "hirono.fukushima", "hirono.iwate",
    "hiroo.hokkaido", "hirosaki.aomori", "hiroshima", "hisayama.fukuoka", "hita.oita",
    "hitachi.ibaraki", "hitachinaka.ibaraki", "hitachiomiya.ibaraki", "hitachiota.ibaraki",
    "hizen.saga", "hofu.yamaguchi", "hokkaido", "hokuryu.hokkaido", "hokuto.hokkaido",
    "hokuto.yamanashi", "holy", "honai.ehime", "honbetsu.hokkaido", "hongo.hiroshima",
    "honjo.akita", "honjo.saitama", "honjyo.akita", "horokanai.hokkaido", "horonobe.hokkaido",
    "hungry", "hyogo", "hyuga.miyazaki", "ibara.okayama", "ibaraki", "ibaraki.ibaraki",
    "ibaraki.osaka", "ibigawa.gifu", "ichiba.tokushima", "ichihara.chiba", "ichikai.tochigi",
    "ichikawa.chiba", "ichikawa.hyogo", "ichikawamisato.yamanashi", "ichinohe.iwate",
    "ichinomiya.aichi", "ichinomiya.chiba", "ichinoseki.iwate", "icurus", "ide.kyoto",
    "iheya.okinawa", "iida.nagano", "iide.yamagata", "iijima.nagano", "iitate.fukushima",
    "iiyama.nagano", "iizuka.fukuoka", "iizuna.nagano", "ikaruga.nara", "ikata.ehime",
    "ikawa.akita", "ikeda.fukui", "ikeda.gifu", "ikeda.hokkaido", "ikeda.nagano", "ikeda.osaka",
    "iki.nagasaki", "ikoma.nara", "ikusaka.nagano", "imabari.ehime", "imakane.hokkaido",
    "imari.saga", "imizu.toyama", "ina.ibaraki", "ina.nagano", "ina.saitama", "inabe.mie",
    "inagawa.hyogo", "inagi.tokyo", "inami.toyama", "inami.wakayama", "inashiki.ibaraki",
    "inatsuki.fukuoka", "inawashiro.fukushima", "inazawa.aichi", "ine.kyoto", "ino.kochi",
    "inuyama.aichi", "inzai.chiba", "iruma.saitama", "isa.kagoshima", "isahaya.nagasaki", "ise.mie",
    "isehara.kanagawa", "isen.kagoshima", "isesaki.gunma", "ishigaki.okinawa", "ishikari.hokkaido",
    "ishikawa", "ishikawa.fukushima", "ishikawa.okinawa", "ishinomaki.miyagi", "isshiki.aichi",
    "isumi.chiba", "itabashi.tokyo", "itako.ibaraki", "itakura.gunma", "itami.hyogo",
    "itano.tokushima", "itayanagi.aomori", "itigo", "ito.shizuoka", "itoigawa.niigata",
    "itoman.okinawa", "ivory.ne", "iwade.wakayama", "iwafune.tochigi", "iwaizumi.iwate",
    "iwaki.fukushima", "iwakuni.yamaguchi", "iwakura.aichi", "iwama.ibaraki", "iwamizawa.hokkaido",
    "iwanai.hokkaido", "iwanuma.miyagi", "iwata.shizuoka", "iwate", "iwate.iwate",
    "iwatsuki.saitama", "iyo.ehime", "izena.okinawa", "izu.shizuoka", "izumi.kagoshima",
    "izumi.osaka", "izumiotsu.osaka", "izumisano.osaka", "izumizaki.fukushima", "izumo.shimane",
    "izumozaki.niigata", "izunokuni.shizuoka", "jeez", "jellybean", "jinsekikogen.hiroshima",
    "joboji.iwate", "joetsu.niigata", "johana.toyama", "joso.ibaraki", "joyo.kyoto",
    "kadena.okinawa", "kadogawa.miyazaki", "kadoma.osaka", "kaga.ishikawa", "kagami.kochi",
    "kagamiishi.fukushima", "kagamino.okayama", "kagawa", "kagoshima", "kagoshima.kagoshima",
    "kaho.fukuoka", "kahoku.ishikawa", "kahoku.yamagata", "kai.yamanashi", "kainan.tokushima",
    "kainan.wakayama", "kaisei.kanagawa", "kaita.hiroshima", "kaizuka.osaka", "kakamigahara.gifu",
    "kakegawa.shizuoka", "kakinoki.shimane", "kakogawa.hyogo", "kakuda.miyagi", "kamagaya.chiba",
    "kamaishi.iwate", "kamakura.kanagawa", "kameoka.kyoto", "kameyama.mie", "kami.kochi",
    "kami.miyagi", "kamiamakusa.kumamoto", "kamifurano.hokkaido", "kamigori.hyogo",
    "kamiichi.toyama", "kamiizumi.saitama", "kamijima.ehime", "kamikawa.hokkaido", "kamikawa.hyogo",
    "kamikawa.saitama", "kamikitayama.nara", "kamikoani.akita", "kamimine.saga",
    "kaminokawa.tochigi", "kaminoyama.yamagata", "kamioka.akita", "kamisato.saitama",
    "kamishihoro.hokkaido", "kamisu.ibaraki", "kamisunagawa.hokkaido", "kamitonda.wakayama",
    "kamitsue.oita", "kamo.kyoto", "kamo.niigata", "kamoenai.hokkaido", "kamogawa.chiba",
    "kanagawa", "kanan.osaka", "kanazawa.ishikawa", "kanegasaki.iwate", "kaneyama.fukushima",
    "kaneyama.yamagata", "kani.gifu", "kanie.aichi", "kanmaki.nara", "kanna.gunma",
    "kannami.shizuoka", "kanonji.kagawa", "kanoya.kagoshima", "kanra.gunma", "kanuma.tochigi",
    "kanzaki.saga", "karasuyama.tochigi", "karatsu.saga", "kariwa.niigata", "kariya.aichi",
    "karuizawa.nagano", "karumai.iwate", "kasahara.gifu", "kasai.hyogo", "kasama.ibaraki",
    "kasamatsu.gifu", "kasaoka.okayama", "kashiba.nara", "kashihara.nara", "kashima.ibaraki",
    "kashima.saga", "kashiwa.chiba", "kashiwara.osaka", "kashiwazaki.niigata", "kasuga.fukuoka",
    "kasuga.hyogo", "kasugai.aichi", "kasukabe.saitama", "kasumigaura.ibaraki", "kasuya.fukuoka",
    "katagami.akita", "katano.osaka", "katashina.gunma", "katori.chiba", "katsuragi.nara",
    "katsuragi.wakayama", "katsushika.tokyo", "katsuura.chiba", "katsuyama.fukui", "kawaba.gunma",
    "kawachinagano.osaka", "kawagoe.mie", "kawagoe.saitama", "kawaguchi.saitama",
    "kawahara.tottori", "kawai.iwate", "kawai.nara", "kawaiishop", "kawajima.saitama",
    "kawakami.nagano", "kawakami.nara", "kawakita.ishikawa", "kawamata.fukushima",
    "kawaminami.miyazaki", "kawanabe.kagoshima", "kawanehon.shizuoka", "kawanishi.hyogo",
    "kawanishi.nara", "kawanishi.yamagata", "kawara.fukuoka", "kawasaki.miyagi",
    "kawatana.nagasaki", "kawaue.gifu", "kawazu.shizuoka", "kayabe.hokkaido", "kazo.saitama",
    "kazuno.akita", "keisen.fukuoka", "kembuchi.hokkaido", "kibichuo.okayama", "kiho.mie",
    "kihoku.ehime", "kijo.miyazaki", "kikirara", "kikonai.hokkaido", "kikuchi.kumamoto",
    "kikugawa.shizuoka", "kill", "kilo", "kimino.wakayama", "kimitsu.chiba", "kimobetsu.hokkaido",
    "kin.okinawa", "kinko.kagoshima", "kinokawa.wakayama", "kira.aichi", "kiryu.gunma",
    "kisarazu.chiba", "kishiwada.osaka", "kiso.nagano", "kisofukushima.nagano", "kisosaki.mie",
    "kita.kyoto", "kita.osaka", "kita.tokyo", "kitaaiki.nagano", "kitaakita.akita",
    "kitadaito.okinawa", "kitagata.gifu", "kitagata.saga", "kitagawa.kochi", "kitagawa.miyazaki",
    "kitahata.saga", "kitahiroshima.hokkaido", "kitakami.iwate", "kitakata.fukushima",
    "kitakata.miyazaki", "kitami.hokkaido", "kitamoto.saitama", "kitanakagusuku.okinawa",
    "kitashiobara.fukushima", "kitaura.miyazaki", "kitayama.wakayama", "kiwa.mie", "kiyama.saga",
    "kiyokawa.kanagawa", "kiyosato.hokkaido", "kiyose.tokyo", "kiyosu.aichi", "kizu.kyoto",
    "kobayashi.miyazaki", "kochi", "kochi.kochi", "kodaira.tokyo", "kofu.yamanashi", "koga.fukuoka",
    "koga.ibaraki", "koganei.tokyo", "koge.tottori", "koka.shiga", "kokonoe.oita",
    "kokubunji.tokyo", "komae.tokyo", "komagane.nagano", "komaki.aichi", "komatsu.ishikawa",
    "komatsushima.tokushima", "komono.mie", "komoro.nagano", "konan.aichi", "konan.shiga",
    "koori.fukushima", "koriyama.fukushima", "koryo.nara", "kosai.shizuoka", "kosaka.akita",
    "kosei.shiga", "koshigaya.saitama", "koshimizu.hokkaido", "koshu.yamanashi", "kosuge.yamanashi",
    "kota.aichi", "koto.shiga", "koto.tokyo", "kotohira.kagawa", "kotoura.tottori", "kouhoku.saga",
    "kounosu.saitama", "kouyama.kagoshima", "kouzushima.tokyo", "koya.wakayama", "koza.wakayama",
    "kozagawa.wakayama", "kozaki.chiba", "kuchinotsu.nagasaki", "kudamatsu.yamaguchi",
    "kudoyama.wakayama", "kui.hiroshima", "kuji.iwate", "kuju.oita", "kujukuri.chiba",
    "kuki.saitama", "kumagaya.saitama", "kumakogen.ehime", "kumamoto", "kumamoto.kumamoto",
    "kumano.hiroshima", "kumano.mie", "kumatori.osaka", "kumejima.okinawa", "kumenan.okayama",
    "kumiyama.kyoto", "kunigami.okinawa", "kunimi.fukushima", "kunisaki.oita", "kunitachi.tokyo",
    "kunitomi.miyazaki", "kunneppu.hokkaido", "kunohe.iwate", "kurashiki.okayama", "kurate.fukuoka",
    "kure.hiroshima", "kuriyama.hokkaido", "kurobe.toyama", "kurogi.fukuoka", "kuroishi.aomori",
    "kuroiso.tochigi", "kuromatsunai.hokkaido", "kuron", "kurotaki.nara", "kurume.fukuoka",
    "kusatsu.gunma", "kusatsu.shiga", "kushima.miyazaki", "kushimoto.wakayama", "kushiro.hokkaido",
    "kusu.oita", "kutchan.hokkaido", "kuwana.mie", "kuzumaki.iwate", "kyonan.chiba",
    "kyotamba.kyoto", "kyotanabe.kyoto", "kyotango.kyoto", "kyoto", "kyowa.akita", "kyowa.hokkaido",
    "kyuragi.saga", "lg", "littlestar", "lolipopmc", "lolitapunk", "lomo", "lovepop", "lovesick",
    "machida.tokyo", "maebashi.gunma", "maibara.shiga", "mail-box.ne", "main", "maizuru.kyoto",
    "makinohara.shizuoka", "makurazaki.kagoshima", "mamurogawa.yamagata", "maniwa.okayama",
    "manno.kagawa", "marugame.kagawa", "marumori.miyagi", "masaki.ehime", "mashike.hokkaido",
    "mashiki.kumamoto", "mashiko.tochigi", "masuda.shimane", "matrix", "matsubara.osaka",
    "matsubushi.saitama", "matsuda.kanagawa", "matsudo.chiba", "matsue.shimane", "matsukawa.nagano",
    "matsumae.hokkaido", "matsumoto.kagoshima", "matsumoto.nagano", "matsuno.ehime",
    "matsusaka.mie", "matsushige.tokushima", "matsushima.miyagi", "matsuura.nagasaki",
    "matsuyama.ehime", "matsuzaki.shizuoka", "meguro.tokyo", "meiwa.gunma", "meiwa.mie",
    "miasa.nagano", "mibu.tochigi", "midori.chiba", "midori.gunma", "mie", "mifune.kumamoto",
    "mihama.aichi", "mihama.chiba", "mihama.fukui", "mihama.mie", "mihama.wakayama",
    "mihara.hiroshima", "mihara.kochi", "miharu.fukushima", "miho.ibaraki", "mikasa.hokkaido",
    "mikawa.yamagata", "miki.hyogo", "mima.tokushima", "mimata.miyazaki", "mimoza",
    "minakami.gunma", "minamata.kumamoto", "minami-alps.yamanashi", "minami.fukuoka",
    "minami.kyoto", "minami.tokushima", "minamiaiki.nagano", "minamiashigara.kanagawa",
    "minamiawaji.hyogo", "minamiboso.chiba", "minamidaito.okinawa", "minamiechizen.fukui",
    "minamifurano.hokkaido", "minamiise.mie", "minamiizu.shizuoka", "minamimaki.nagano",
    "minamiminowa.nagano", "minamioguni.kumamoto", "minamisanriku.miyagi", "minamitane.kagoshima",
    "minamiuonuma.niigata", "minamiyamashiro.kyoto", "minano.saitama", "minato.osaka",
    "minato.tokyo", "mino.gifu", "minobu.yamanashi", "minoh.osaka", "minokamo.gifu",
    "minowa.nagano", "mints.ne", "misaki.okayama", "misaki.osaka", "misasa.tottori", "misato.akita",
    "misato.miyagi", "misato.saitama", "misato.shimane", "misato.wakayama", "misawa.aomori",
    "mishima.fukushima", "mishima.shizuoka", "misugi.mie", "mitaka.tokyo", "mitake.gifu",
    "mitane.akita", "mito.ibaraki", "mitou.yamaguchi", "mitoyo.kagawa", "mitsue.nara",
    "mitsuke.niigata", "miura.kanagawa", "miyada.nagano", "miyagi", "miyake.nara", "miyako.fukuoka",
    "miyako.iwate", "miyakonojo.miyazaki", "miyama.fukuoka", "miyama.mie", "miyashiro.saitama",
    "miyawaka.fukuoka", "miyazaki", "miyazaki.miyazaki", "miyazu.kyoto", "miyoshi.aichi",
    "miyoshi.hiroshima", "miyoshi.saitama", "miyoshi.tokushima", "miyota.nagano", "mizuho.tokyo",
    "mizumaki.fukuoka", "mizunami.gifu", "mizusawa.iwate", "mobara.chiba", "mochizuki.nagano",
    "mods", "moka.tochigi", "mokuren.ne", "mombetsu.hokkaido", "mond", "mongolian", "moo",
    "moriguchi.osaka", "morimachi.shizuoka", "morioka.iwate", "moriya.ibaraki", "moriyama.shiga",
    "moriyoshi.akita", "morotsuka.miyazaki", "moroyama.saitama", "moseushi.hokkaido",
    "motegi.tochigi", "motobu.okinawa", "motosu.gifu", "motoyama.kochi", "mugi.tokushima",
    "muika.niigata", "mukawa.hokkaido", "muko.kyoto", "munakata.fukuoka", "murakami.niigata",
    "murata.miyagi", "murayama.yamagata", "muroran.hokkaido", "muroto.kochi",
    "musashimurayama.tokyo", "musashino.tokyo", "mutsu.aomori", "mutsuzawa.chiba", "myoko.niigata",
    "nabari.mie", "nachikatsuura.wakayama", "nagahama.shiga", "nagai.yamagata", "nagano",
    "nagano.nagano", "naganohara.gunma", "nagaoka.niigata", "nagaokakyo.kyoto", "nagara.chiba",
    "nagareyama.chiba", "nagasaki", "nagasaki.nagasaki", "nagasu.kumamoto", "nagato.yamaguchi",
    "nagatoro.saitama", "nagawa.nagano", "nagi.okayama", "nagiso.nagano", "nago.okinawa",
    "naha.okinawa", "nahari.kochi", "naie.hokkaido", "naka.hiroshima", "naka.ibaraki",
    "nakadomari.aomori", "nakagawa.fukuoka", "nakagawa.hokkaido", "nakagawa.nagano",
    "nakagawa.tokushima", "nakagusuku.okinawa", "nakagyo.kyoto", "nakai.kanagawa", "nakama.fukuoka",
    "nakamichi.yamanashi", "nakamura.kochi", "nakaniikawa.toyama", "nakano.nagano", "nakano.tokyo",
    "nakanojo.gunma", "nakanoto.ishikawa", "nakasatsunai.hokkaido", "nakatane.kagoshima",
    "nakatombetsu.hokkaido", "nakatsugawa.gifu", "nakayama.yamagata", "nakijin.okinawa", "namaste",
    "namegata.ibaraki", "namegawa.saitama", "namerikawa.toyama", "namie.fukushima",
    "namikata.ehime", "nanae.hokkaido", "nanao.ishikawa", "nanbu.tottori", "nanbu.yamanashi",
    "nango.fukushima", "nanjo.okinawa", "nankoku.kochi", "nanmoku.gunma", "nanporo.hokkaido",
    "nantan.kyoto", "nanto.toyama", "nanyo.yamagata", "naoshima.kagawa", "nara", "nara.nara",
    "narashino.chiba", "narita.chiba", "narusawa.yamanashi", "naruto.tokushima", "nasu.tochigi",
    "nasushiobara.tochigi", "natori.miyagi", "nayoro.hokkaido", "ne", "nemuro.hokkaido",
    "nerima.tokyo", "netgamers", "neyagawa.osaka", "nichinan.miyazaki", "nichinan.tottori",
    "niigata", "niigata.niigata", "niihama.ehime", "niikappu.hokkaido", "niimi.okayama",
    "niiza.saitama", "nikaho.akita", "niki.hokkaido", "nikita", "nikko.tochigi", "ninohe.iwate",
    "ninomiya.kanagawa", "nirasaki.yamanashi", "nishi.fukuoka", "nishi.osaka",
    "nishiaizu.fukushima", "nishiarita.saga", "nishiawakura.okayama", "nishiazai.shiga",
    "nishigo.fukushima", "nishihara.kumamoto", "nishihara.okinawa", "nishiizu.shizuoka",
    "nishikata.tochigi", "nishikatsura.yamanashi", "nishikawa.yamagata", "nishimera.miyazaki",
    "nishinomiya.hyogo", "nishinoomote.kagoshima", "nishinoshima.shimane", "nishio.aichi",
    "nishiokoppe.hokkaido", "nishitosa.kochi", "nishiwaki.hyogo", "nisshin.aichi",
    "niyodogawa.kochi", "nobeoka.miyazaki", "noboribetsu.hokkaido", "nobushi", "noda.chiba",
    "noda.iwate", "nogata.fukuoka", "nogi.tochigi", "noheji.aomori", "nomi.ishikawa",
    "nonoichi.ishikawa", "noor", "nose.osaka", "nosegawa.nara", "noshiro.akita", "noto.ishikawa",
    "notogawa.shiga", "nozawaonsen.nagano", "numata.gunma", "numata.hokkaido", "numazu.shizuoka",
    "nyanta", "nyuzen.toyama", "o0o0", "oamishirasato.chiba", "oarai.ibaraki", "obama.fukui",
    "obama.nagasaki", "obanazawa.yamagata", "obihiro.hokkaido", "obira.hokkaido", "obu.aichi",
    "obuse.nagano", "ochi.kochi", "odate.akita", "odawara.kanagawa", "oe.yamagata", "ofunato.iwate",
    "oga.akita", "ogaki.gifu", "ogano.saitama", "ogasawara.tokyo", "ogata.akita", "ogawa.ibaraki",
    "ogawa.nagano", "ogawa.saitama", "ogawara.miyagi", "ogi.saga", "ogimi.okinawa", "ogori.fukuoka",
    "ogose.saitama", "oguchi.aichi", "oguni.kumamoto", "oguni.yamagata", "oharu.aichi",
    "ohda.shimane", "ohi.fukui", "ohira.miyagi", "ohira.tochigi", "ohkura.yamagata",
    "ohtawara.tochigi", "oi.kanagawa", "oirase.aomori", "oishida.yamagata", "oiso.kanagawa", "oita",
    "oita.oita", "oizumi.gunma", "oji.nara", "ojiya.niigata", "okagaki.fukuoka", "okawa.fukuoka",
    "okawa.kochi", "okaya.nagano", "okayama", "okayama.okayama", "okazaki.aichi", "okegawa.saitama",
    "oketo.hokkaido", "oki.fukuoka", "okinawa", "okinawa.okinawa", "okinoshima.shimane",
    "okoppe.hokkaido", "okuizumo.shimane", "okuma.fukushima", "okutama.tokyo", "omachi.nagano",
    "omachi.saga", "omaezaki.shizuoka", "ome.tokyo", "omi.nagano", "omi.niigata", "omigawa.chiba",
    "omihachiman.shiga", "omitama.ibaraki", "omiya.saitama", "omotego.fukushima", "omura.nagasaki",
    "omuta.fukuoka", "onagawa.miyagi", "onga.fukuoka", "onjuku.chiba", "onna.okinawa", "ono.fukui",
    "ono.fukushima", "ono.hyogo", "onojo.fukuoka", "onomichi.hiroshima", "ookuwa.nagano", "oops",
    "ooshika.nagano", "opal.ne", "or", "ora.gunma", "osaka", "osakasayama.osaka", "osaki.miyagi",
    "osakikamijima.hiroshima", "oseto.nagasaki", "oshima.tokyo", "oshima.yamaguchi",
    "oshino.yamanashi", "oshu.iwate", "ota.gunma", "ota.tokyo", "otake.hiroshima", "otaki.chiba",
    "otaki.nagano", "otaki.saitama", "otama.fukushima", "otari.nagano", "otaru.hokkaido",
    "oto.fukuoka", "otobe.hokkaido", "otofuke.hokkaido", "otoineppu.hokkaido", "otoyo.kochi",
    "otsu.shiga", "otsuchi.iwate", "otsuki.kochi", "otsuki.yamanashi", "ouchi.saga", "ouda.nara",
    "oumu.hokkaido", "owani.aomori", "owariasahi.aichi", "oyabe.toyama", "oyama.tochigi",
    "oyamazaki.kyoto", "oyodo.nara", "ozora.hokkaido", "ozu.ehime", "ozu.kumamoto", "parallel",
    "parasite", "pecori", "peewee", "penne", "pepper", "perma", "pigboat", "pinoko",
    "pippu.hokkaido", "punyu", "pupu", "pussycat", "pya", "raindrop", "rankoshi.hokkaido",
    "ranzan.saitama", "rdy", "readymade", "rebun.hokkaido", "rgr", "rifu.miyagi",
    "rikubetsu.hokkaido", "rikuzentakata.iwate", "rishiri.hokkaido", "rishirifuji.hokkaido",
    "ritto.shiga", "rokunohe.aomori", "rs.webaccel", "rulez", "ryokami.saitama",
    "ryugasaki.ibaraki", "ryuoh.shiga", "s3.isk01.sakurastorage", "s3.isk02.sakurastorage",
    "sabae.fukui", "sadist", "sado.niigata", "saga", "saga.saga", "sagae.yamagata",
    "sagamihara.kanagawa", "saigawa.fukuoka", "saijo.ehime", "saikai.nagasaki", "saiki.oita",
    "saitama", "saitama.saitama", "saito.miyazaki", "saka.hiroshima", "sakado.saitama",
    "sakae.chiba", "sakae.nagano", "sakahogi.gifu", "sakai.fukui", "sakai.ibaraki", "sakai.osaka",
    "sakaiminato.tottori", "sakaki.nagano", "sakata.yamagata", "sakawa.kochi", "sakegawa.yamagata",
    "saku.nagano", "sakuho.nagano", "sakura.chiba", "sakura.ne", "sakura.tochigi",
    "sakuragawa.ibaraki", "sakurai.nara", "sakyo.kyoto", "saloon", "samegawa.fukushima",
    "samukawa.kanagawa", "sanagochi.tokushima", "sanda.hyogo", "sango.nara", "sanjo.niigata",
    "sannan.hyogo", "sannohe.aomori", "sano.tochigi", "sanuki.kagawa", "saroma.hokkaido",
    "sarufutsu.hokkaido", "sasaguri.fukuoka", "sasayama.hyogo", "sasebo.nagasaki",
    "satosho.okayama", "satsumasendai.kagoshima", "satte.saitama", "sayama.osaka", "sayama.saitama",
    "sayo.hyogo", "sblo", "schoolbus", "secret", "seihi.nagasaki", "seika.kyoto", "seiro.niigata",
    "seirou.niigata", "seiyo.ehime", "seki.gifu", "sekigahara.gifu", "sekikawa.niigata",
    "semboku.akita", "semine.miyagi", "sennan.osaka", "sera.hiroshima", "seranishi.hiroshima",
    "setagaya.tokyo", "seto.aichi", "setouchi.okayama", "settsu.osaka", "shakotan.hokkaido",
    "shari.hokkaido", "shibata.miyagi", "shibata.niigata", "shibecha.hokkaido", "shibetsu.hokkaido",
    "shibukawa.gunma", "shibuya.tokyo", "shichikashuku.miyagi", "shichinohe.aomori", "shiga",
    "shiiba.miyazaki", "shijonawate.osaka", "shika.ishikawa", "shikabe.hokkaido", "shikama.miyagi",
    "shikaoi.hokkaido", "shikatsu.aichi", "shiki.saitama", "shikokuchuo.ehime", "shima.mie",
    "shimabara.nagasaki", "shimada.shizuoka", "shimamaki.hokkaido", "shimamoto.osaka", "shimane",
    "shimane.shimane", "shimizu.hokkaido", "shimizu.shizuoka", "shimoda.shizuoka",
    "shimodate.ibaraki", "shimofusa.chiba", "shimogo.fukushima", "shimoichi.nara",
    "shimoji.okinawa", "shimokawa.hokkaido", "shimokitayama.nara", "shimonita.gunma",
    "shimonoseki.yamaguchi", "shimosuwa.nagano", "shimotsuke.tochigi", "shimotsuma.ibaraki",
    "shinagawa.tokyo", "shinanomachi.nagano", "shingo.aomori", "shingu.fukuoka", "shingu.hyogo",
    "shingu.wakayama", "shinichi.hiroshima", "shinjo.nara", "shinjo.okayama", "shinjo.yamagata",
    "shinjuku.tokyo", "shinkamigoto.nagasaki", "shinonsen.hyogo", "shinshinotsu.hokkaido",
    "shinshiro.aichi", "shinto.gunma", "shintoku.hokkaido", "shintomi.miyazaki",
    "shinyoshitomi.fukuoka", "shiogama.miyagi", "shiojiri.nagano", "shioya.tochigi",
    "shirahama.wakayama", "shirakawa.fukushima", "shirakawa.gifu", "shirako.chiba",
    "shiranuka.hokkaido", "shiraoi.hokkaido", "shiraoka.saitama", "shirataka.yamagata",
    "shiriuchi.hokkaido", "shiroi.chiba", "shiroishi.miyagi", "shiroishi.saga", "shirosato.ibaraki",
    "shishikui.tokushima", "shiso.hyogo", "shisui.chiba", "shitara.aichi", "shiwa.iwate",
    "shizukuishi.iwate", "shizuoka", "shizuoka.shizuoka", "shobara.hiroshima", "shonai.fukuoka",
    "shonai.yamagata", "shoo.okayama", "showa.fukushima", "showa.gunma", "showa.yamanashi",
    "shunan.yamaguchi", "skr", "sobetsu.hokkaido", "sodegaura.chiba", "soeda.fukuoka",
    "soja.okayama", "soka.saitama", "soma.fukushima", "soni.nara", "soo.kagoshima", "sosa.chiba",
    "sowa.ibaraki", "staba", "stripper", "sub", "sue.fukuoka", "suginami.tokyo", "sugito.saitama",
    "suifu.ibaraki", "suita.osaka", "sukagawa.fukushima", "sukumo.kochi", "sumida.tokyo",
    "sumita.iwate", "sumomo.ne", "sumoto.hyogo", "sumoto.kumamoto", "sunagawa.hokkaido", "sunnyday",
    "supersale", "susaki.kochi", "susono.shizuoka", "suwa.nagano", "suzaka.nagano", "suzu.ishikawa",
    "suzuka.mie", "tabayama.yamanashi", "tabuse.yamaguchi", "tachiarai.fukuoka", "tachikawa.tokyo",
    "tadaoka.osaka", "tado.mie", "tadotsu.kagawa", "tagajo.miyagi", "tagami.niigata",
    "tagawa.fukuoka", "tahara.aichi", "taiji.wakayama", "taiki.hokkaido", "taiki.mie",
    "tainai.niigata", "taira.toyama", "taishi.hyogo", "taishi.osaka", "taishin.fukushima",
    "taito.tokyo", "taiwa.miyagi", "tajimi.gifu", "tajiri.osaka", "taka.hyogo", "takagi.nagano",
    "takahagi.ibaraki", "takahama.aichi", "takahama.fukui", "takaharu.miyazaki",
    "takahashi.okayama", "takahata.yamagata", "takaishi.osaka", "takamatsu.kagawa",
    "takamori.kumamoto", "takamori.nagano", "takanabe.miyazaki", "takanezawa.tochigi",
    "takaoka.toyama", "takarazuka.hyogo", "takasago.hyogo", "takasaki.gunma", "takashima.shiga",
    "takasu.hokkaido", "takata.fukuoka", "takatori.nara", "takatsuki.osaka", "takatsuki.shiga",
    "takayama.gifu", "takayama.gunma", "takayama.nagano", "takazaki.miyazaki", "takehara.hiroshima",
    "taketa.oita", "taketomi.okinawa", "taki.mie", "takikawa.hokkaido", "takino.hyogo",
    "takinoue.hokkaido", "takko.aomori", "tako.chiba", "taku.saga", "tama.tokyo",
    "tamakawa.fukushima", "tamaki.mie", "tamamura.gunma", "tamano.okayama", "tamatsukuri.ibaraki",
    "tamayu.shimane", "tamba.hyogo", "tanabe.kyoto", "tanabe.wakayama", "tanagura.fukushima",
    "tank", "tanohata.iwate", "tara.saga", "tarama.okinawa", "tarui.gifu", "tarumizu.kagoshima",
    "tatebayashi.gunma", "tateshina.nagano", "tateyama.chiba", "tateyama.toyama", "tatsuno.hyogo",
    "tatsuno.nagano", "tawaramoto.nara", "tendo.yamagata", "tenei.fukushima", "tenkawa.nara",
    "tenri.nara", "teshikaga.hokkaido", "theshop", "thick", "toba.mie", "tobe.ehime",
    "tobetsu.hokkaido", "tobishima.aichi", "tochigi", "tochigi.tochigi", "tochio.niigata",
    "toda.saitama", "toei.aichi", "toga.toyama", "togakushi.nagano", "togane.chiba",
    "togitsu.nagasaki", "togo.aichi", "togura.nagano", "tohma.hokkaido", "tohnosho.chiba",
    "toho.fukuoka", "tokai.aichi", "tokai.ibaraki", "tokamachi.niigata", "tokashiki.okinawa",
    "toki.gifu", "tokigawa.saitama", "tokoname.aichi", "tokorozawa.saitama", "tokushima",
    "tokushima.tokushima", "tokuyama.yamaguchi", "tokyo", "tomakomai.hokkaido", "tomari.hokkaido",
    "tome.miyagi", "tomi.nagano", "tomigusuku.okinawa", "tomika.gifu", "tomioka.gunma",
    "tomisato.chiba", "tomiya.miyagi", "tomobe.ibaraki", "tonaki.okinawa", "tonami.toyama",
    "tondabayashi.osaka", "tone.ibaraki", "tonkotsu", "tono.iwate", "tonosho.kagawa", "toon.ehime",
    "topaz.ne", "torahime.shiga", "toride.ibaraki", "tosa.kochi", "tosashimizu.kochi",
    "toshima.tokyo", "tosu.saga", "tottori", "tottori.tottori", "towada.aomori", "toya.hokkaido",
    "toyako.hokkaido", "toyama", "toyama.toyama", "toyo.kochi", "toyoake.aichi", "toyohashi.aichi",
    "toyokawa.aichi", "toyonaka.osaka", "toyone.aichi", "toyono.osaka", "toyooka.hyogo",
    "toyosato.shiga", "toyota.aichi", "toyota.yamaguchi", "toyotomi.hokkaido", "toyotsu.fukuoka",
    "toyoura.hokkaido", "tozawa.yamagata", "tsu.mie", "tsubame.niigata", "tsubata.ishikawa",
    "tsubetsu.hokkaido", "tsuchiura.ibaraki", "tsuga.tochigi", "tsugaru.aomori", "tsuiki.fukuoka",
    "tsukigata.hokkaido", "tsukiyono.gunma", "tsukuba.ibaraki", "tsukui.kanagawa", "tsukumi.oita",
    "tsumagoi.gunma", "tsunan.niigata", "tsuno.kochi", "tsuno.miyazaki", "tsuru.yamanashi",
    "tsuruga.fukui", "tsurugashima.saitama", "tsurugi.ishikawa", "tsuruoka.yamagata",
    "tsuruta.aomori", "tsushima.aichi", "tsushima.nagasaki", "tsuwano.shimane", "tsuyama.okayama",
    "ube.yamaguchi", "uchihara.ibaraki", "uchiko.ehime", "uchinada.ishikawa", "uchinomi.kagawa",
    "uda.nara", "udono.mie", "ueda.nagano", "ueno.gunma", "uenohara.yamanashi", "uh-oh",
    "uji.kyoto", "ujiie.tochigi", "ujitawara.kyoto", "uki.kumamoto", "ukiha.fukuoka", "umaji.kochi",
    "umi.fukuoka", "unazuki.toyama", "under", "undo", "unnan.shimane", "unzen.nagasaki",
    "uonuma.niigata", "uozu.toyama", "upper", "urakawa.hokkaido", "urasoe.okinawa",
    "urausu.hokkaido", "urawa.saitama", "urayasu.chiba", "ureshino.mie", "uruma.okinawa",
    "uryu.hokkaido", "usa.oita", "user.aseinet.ne", "user.webaccel", "usercontent",
    "ushiku.ibaraki", "usui.fukuoka", "usuki.oita", "utashinai.hokkaido", "utazu.kagawa",
    "uto.kumamoto", "utsunomiya.tochigi", "uwajima.ehime", "velvet", "verse", "versus", "vivian",
    "wada.nagano", "wajiki.tokushima", "wajima.ishikawa", "wakasa.fukui", "wakasa.tottori",
    "wakayama", "wakayama.wakayama", "wake.okayama", "wakkanai.hokkaido", "wakuya.miyagi",
    "wanouchi.gifu", "warabi.saitama", "wassamu.hokkaido", "watarai.mie", "watari.miyagi", "watson",
    "wazuka.kyoto", "weblike", "websozai", "whitesnow", "xii", "xn--0trq7p7nn", "xn--1ctwo",
    "xn--1lqs03n", "xn--1lqs71d", "xn--2m4a15e", "xn--32vp30h", "xn--4it168d", "xn--4it797k",
    "xn--4pvxs", "xn--5js045d", "xn--5rtp49c", "xn--5rtq34k", "xn--6btw5a", "xn--6orx2r",
    "xn--7t0a264c", "xn--8ltr62k", "xn--8pvr4u", "xn--c3s14m", "xn--d5qv7z876c", "xn--djrs72d6uy",
    "xn--djty4k", "xn--efvn9s", "xn--ehqz56n", "xn--elqq16h", "xn--f6qx53a", "xn--k7yn95e",
    "xn--kbrq7o", "xn--klt787d", "xn--kltp7d", "xn--kltx9a", "xn--klty5x", "xn--mkru45i",
    "xn--nit225k", "xn--ntso0iqx3a", "xn--ntsq17g", "xn--pssu33l", "xn--qqqt11m", "xn--rht27z",
    "xn--rht3d", "xn--rht61e", "xn--rny31h", "xn--tor131o", "xn--uist22h", "xn--uisz3g",
    "xn--uuwu58a", "xn--vgu402c", "xn--zbx025d", "yabu.hyogo", "yabuki.fukushima",
    "yachimata.chiba", "yachiyo.chiba", "yachiyo.ibaraki", "yaese.okinawa", "yahaba.iwate",
    "yahiko.niigata", "yaita.tochigi", "yaizu.shizuoka", "yakage.okayama", "yakumo.hokkaido",
    "yakumo.shimane", "yamada.fukuoka", "yamada.iwate", "yamada.toyama", "yamaga.kumamoto",
    "yamagata", "yamagata.gifu", "yamagata.ibaraki", "yamagata.nagano", "yamagata.yamagata",
    "yamaguchi", "yamakita.kanagawa", "yamamoto.miyagi", "yamanakako.yamanashi", "yamanashi",
    "yamanashi.yamanashi", "yamanobe.yamagata", "yamanouchi.nagano", "yamashina.kyoto",
    "yamato.fukushima", "yamato.kanagawa", "yamato.kumamoto", "yamatokoriyama.nara",
    "yamatotakada.nara", "yamatsuri.fukushima", "yamazoe.nara", "yame.fukuoka", "yanagawa.fukuoka",
    "yanaizu.fukushima", "yao.osaka", "yaotsu.gifu", "yasaka.nagano", "yashio.saitama",
    "yashiro.hyogo", "yasu.shiga", "yasuda.kochi", "yasugi.shimane", "yasuoka.nagano",
    "yatomi.aichi", "yatsuka.shimane", "yatsushiro.kumamoto", "yawara.ibaraki", "yawata.kyoto",
    "yawatahama.ehime", "yazu.tottori", "yoichi.hokkaido", "yoita.niigata", "yoka.hyogo",
    "yokaichiba.chiba", "yokawa.hyogo", "yokkaichi.mie", "yokoshibahikari.chiba",
    "yokosuka.kanagawa", "yokote.akita", "yokoze.saitama", "yomitan.okinawa", "yonabaru.okinawa",
    "yonago.tottori", "yonaguni.okinawa", "yonezawa.yamagata", "yono.saitama", "yorii.saitama",
    "yoro.gifu", "yoshida.saitama", "yoshida.shizuoka", "yoshikawa.saitama", "yoshimi.saitama",
    "yoshino.nara", "yoshinogari.saga", "yoshioka.gunma", "yotsukaido.chiba", "yuasa.wakayama",
    "yufu.oita", "yugawa.fukushima", "yugawara.kanagawa", "yuki.ibaraki", "yukuhashi.fukuoka",
    "yura.wakayama", "yurihonjo.akita", "yusuhara.kochi", "yusui.kagoshima", "yuu.yamaguchi",
    "yuza.yamagata", "yuzawa.niigata", "zama.kanagawa", "zamami.okinawa", "zao.miyagi",
    "zentsuji.kagawa", "zombie", "zushi.kanagawa", "三重", "京都", "佐賀", "兵庫", "北海道", "千葉", "和歌山", "埼玉",
    "大分", "大阪", "奈良", "宮城", "宮崎", "富山", "山口", "山形", "山梨", "岐阜", "岡山", "岩手", "島根", "広島", "徳島", "愛媛",
    "愛知", "新潟", "東京", "栃木", "沖縄", "滋賀", "熊本", "石川", "神奈川", "福井", "福岡", "福島", "秋田", "群馬", "茨城", "長崎",
    "長野", "青森", "静岡", "香川", "高知", "鳥取", "鹿児島"],
    ["kawasaki", "kitakyushu", "kobe", "nagoya", "sapporo", "sendai", "yokohama"],
    [
    "city.kawasaki", "city.kitakyushu", "city.kobe", "city.nagoya", "city.sapporo", "city.sendai",
    "city.yokohama"]⟩),
  ("ke", ⟨["ac", "blogspot.co", "co", "go", "info", "me", "mobi", "ne", "or", "sc"], [], []⟩),
  ("kg", ⟨[
    "blog", "com", "edu", "gov", "io", "jp", "mil", "net", "org", "tv", "uk", "us"], [], []⟩),
  ("kh", ⟨[], [""], []⟩),
  ("ki", ⟨["biz", "com", "edu", "gov", "info", "net", "org"], [], []⟩),
  ("km", ⟨[
    "ass", "asso", "com", "coop", "edu", "gouv", "gov", "medecin", "mil", "nom", "notaires", "org",
    "pharmaciens", "prd", "presse", "tm", "veterinaire"], [], []⟩),
  ("kn", ⟨["edu", "gov", "net", "org"], [], []⟩),
  ("kp", ⟨["com", "edu", "gov", "org", "rep", "tra"], [], []⟩),
  ("kr", ⟨[
    "ac", "blogspot", "busan", "chungbuk", "chungnam", "co", "daegu", "daejeon", "es", "gangwon",
    "go", "gwangju", "gyeongbuk", "gyeonggi", "gyeongnam", "hs", "incheon", "jeju", "jeonbuk",
    "jeonnam", "kg", "mil", "ms", "ne", "or", "pe", "re", "sc", "seoul", "ulsan"], [], []⟩),
  ("krd", ⟨["co", "edu"], [], []⟩),
  ("kw", ⟨["com", "edu", "emb", "gov", "ind", "net", "org"], [], []⟩),
  ("ky", ⟨["com", "edu", "net", "org"], [], []⟩),
  ("kz", ⟨["com", "edu", "gov", "jcloud", "mil", "net", "org", "upaas.kazteleport"], [], []⟩),
  ("la", ⟨["bnr", "c", "com", "edu", "gov", "info", "int", "net", "org", "per"], [], []⟩),
  ("land", ⟨["dev.static", "sites.static", "static"], [], []⟩),
  ("lb", ⟨["com", "edu", "gov", "net", "org"], [], []⟩),
  ("lc", ⟨["co", "com", "edu", "gov", "net", "org", "oy"], [], []⟩),
  ("li", ⟨["blogspot", "caa"], [], []⟩),
  ("link", ⟨["cyon", "mypep"], ["dweb"], []⟩),
  ("live", ⟨["hlx"], [], []⟩),
  ("lk", ⟨[
    "ac", "assn", "com", "edu", "gov", "grp", "hotel", "int", "ltd", "net", "ngo", "org", "sch",
    "soc", "web"], [], []⟩),
  ("lol", ⟨["omg"], [], []⟩),
  ("lr", ⟨["com", "edu", "gov", "net", "org"], [], []⟩),
  ("ls", ⟨["ac", "biz", "co", "de", "edu", "gov", "info", "net", "org", "sc"], [], []⟩),
  ("lt", ⟨["blogspot", "gov"], [], []⟩),
  ("lu", ⟨["123website", "blogspot"], [], []⟩),
  ("lv", ⟨["asn", "com", "conf", "edu", "gov", "id", "mil", "net", "org"], [], []⟩),
  ("ly", ⟨["com", "edu", "gov", "id", "med", "net", "org", "plc", "sch"], [], []⟩),
  ("ma", ⟨["ac", "co", "gov", "net", "org", "press"], [], []⟩),
  ("management", ⟨["router"], [], []⟩),
  ("mc", ⟨["asso", "tm"], [], []⟩),
  ("md", ⟨["at", "blogspot", "de", "jp", "to"], [], []⟩),
  ("me", ⟨[
    "ac", "barsy", "brasilia", "c66", "co", "daplie", "ddns", "diskstation", "dnsfor", "dscloud",
    "edgestack", "edu", "filegear", "filegear-au", "filegear-de", "filegear-gb", "filegear-ie",
    "filegear-jp", "filegear-sg", "glitch", "gov", "hopto", "i234", "its", "localhost.daplie",
    "loginto", "lohmus", "mcdir", "mcpe", "myds", "net", "nohost", "noip", "org", "priv", "ravendb",
    "site.transip", "soundcast", "synology", "tcp4", "vp4", "webhop", "wedeploy", "yombo"], [],
    []⟩),
  ("media", ⟨["framer"], [], []⟩),
  ("menu", ⟨["barsy"], [], []⟩),
  ("mg", ⟨["co", "com", "edu", "gov", "mil", "nom", "org", "prd", "tm"], [], []⟩),
  ("mk", ⟨["blogspot", "com", "edu", "gov", "inf", "name", "net", "org"], [], []⟩),
  ("ml", ⟨["com", "edu", "gouv", "gov", "net", "org", "presse"], [], []⟩),
  ("mm", ⟨[], [""], []⟩),
  ("mn", ⟨["edu", "gov", "nyc", "org"], [], []⟩),
  ("mo", ⟨["com", "edu", "gov", "net", "org"], [], []⟩),
  ("mobi", ⟨["barsy", "dscloud"], [], []⟩),
  ("mp", ⟨["ju"], [], []⟩),
  ("mr", ⟨["blogspot", "gov"], [], []⟩),
  ("ms", ⟨["com", "edu", "gov", "lab", "minisite", "net", "org"], [], []⟩),
  ("mt", ⟨["blogspot.com", "com", "edu", "net", "org"], [], []⟩),
  ("mu", ⟨["ac", "co", "com", "gov", "net", "or", "org"], [], []⟩),
  ("mv", ⟨[
    "aero", "biz", "com", "coop", "edu", "gov", "info", "int", "mil", "museum", "name", "net",
    "org", "pro"], [], []⟩),
  ("mw", ⟨[
    "ac", "biz", "co", "com", "coop", "edu", "gov", "int", "museum", "net", "org"], [], []⟩),
  ("mx", ⟨["blogspot", "com", "edu", "gob", "net", "org"], [], []⟩),
  ("my", ⟨["biz", "blogspot", "com", "edu", "gov", "mil", "name", "net", "org"], [], []⟩),
  ("mz", ⟨["ac", "adv", "co", "edu", "gov", "mil", "net", "org"], [], []⟩),
  ("na", ⟨[
    "ca", "cc", "co", "com", "dr", "in", "info", "mobi", "mx", "name", "or", "org", "pro", "school",
    "tv", "us", "ws"], [], []⟩),
  ("name", ⟨["forgot.her", "forgot.his"], [], []⟩),
  ("nc", ⟨["asso", "nom"], [], []⟩),
  ("net", ⟨[
    "1.azurestaticapps", "2.azurestaticapps", "3.azurestaticapps", "a.prod.fastly", "a.ssl.fastly",
    "adobeaemcloud", "adobeio-static", "adobeioruntime", "akadns", "akamai", "akamai-staging",
    "akamaiedge", "akamaiedge-staging", "akamaihd", "akamaihd-staging", "akamaiorigin",
    "akamaiorigin-staging", "akamaized", "akamaized-staging", "alwaysdata", "appudo",
    "at-band-camp", "atl.jelastic.vps-host", "azure-mobile", "azurestaticapps", "azurewebsites",
    "b.ssl.fastly", "bar0", "bar1", "bar2", "barsy", "beta.tailscale", "bitbridge", "blackbaudcdn",
    "blogdns", "boomla", "bounceme", "bplaced", "broke-it", "buyshouses", "casacam", "cdn-edges",
    "cdn.prod.atlassian-dev", "cdn77-ssl", "centralus.azurestaticapps", "channelsdvr",
    "clickrising", "cloudaccess", "cloudapp", "cloudfront", "cloudfunctions", "cloudjiffy",
    "cloudycluster", "community-pro", "dattolocal", "ddns", "debian", "definima", "dnsalias",
    "dnsdojo", "dnsup", "does-it", "dontexist", "dsmynas", "dynalias", "dynathome", "dynu", "dynv6",
    "eastasia.azurestaticapps", "eastus2.azurestaticapps", "eating-organic", "edgeapp", "edgekey",
    "edgekey-staging", "edgesuite", "edgesuite-staging", "endofinternet", "familyds", "fastlylb",
    "faststacks", "feste-ip", "firewall-gateway", "flynnhosting", "fr-1.paas.massivegrid",
    "fra1-de.cloudjiffy", "freetls.fastly", "from-az", "from-co", "from-la", "from-ny", "gb",
    "gets-it", "global.prod.fastly", "global.ssl.fastly", "ham-radio-op", "heteml", "hicam",
    "homeftp", "homeip", "homelinux", "homeunix", "hu", "in", "in-dsl", "in-the-band", "in-vpn",
    "iobb", "ipifony", "is-a-chef", "is-a-geek", "isa-geek", "j.scaleforce", "jelastic.saveincloud",
    "jelastic.tsukaeru", "jls-sto1.elastx", "jls-sto2.elastx", "jls-sto3.elastx", "jp", "kicks-ass",
    "kinghost", "knx-server", "krellian", "lon-1.paas.massivegrid", "lon-2.paas.massivegrid",
    "map.fastly", "map.fastlylb", "meinforum", "memset", "moonscale", "myamaze", "mydatto",
    "mydissent", "myeffect", "myfritz", "mymediapc", "mypsx", "mysecuritycamera", "myspreadshop",
    "nhlfan", "njs.jelastic.vps-host", "no-ip", "nordeste-idc.saveincloud", "now-dns",
    "ny-1.paas.massivegrid", "ny-2.paas.massivegrid", "office-on-the", "onavstack", "ownip",
    "pages.torproject", "pgafan", "podzone", "privatizehealthinsurance", "r.cdn77", "rackmaze",
    "redirectme", "reserve-online", "ric.jelastic.vps-host", "ru", "schokokeks", "scrapper-site",
    "se", "seidat", "selfip", "sells-it", "senseering", "servebbs", "serveblog", "serveftp",
    "serveminecraft", "sg-1.paas.massivegrid", "shopselect", "siteleaf", "soc.srcf", "square7",
    "squares", "static-access", "storage.yandexcloud", "supabase", "sytes", "t3l3p0rt", "thruhere",
    "torproject", "ts", "twmail", "u.channelsdvr", "uk", "uni5", "user.srcf", "vpndns", "vps-host",
    "webhop", "website.yandexcloud", "west1-us.cloudjiffy", "westeurope.azurestaticapps",
    "westus2.azurestaticapps", "yandexcloud", "za"],
    ["cryptonomic", "hosting.ovh", "webpaas.ovh"], []⟩),
  ("network", ⟨["arvo", "azimuth", "co", "tlon"], ["alces"], []⟩),
  ("news", ⟨["noticeable"], [], []⟩),
  ("nf", ⟨["arts", "com", "firm", "info", "net", "other", "per", "rec", "store", "web"], [], []⟩),
  ("ng", ⟨[
    "blogspot.com", "col", "com", "edu", "firm", "gen", "gov", "i", "ltd", "mil", "mobi", "name",
    "net", "ngo", "org", "sch"], [], []⟩),
  ("ni", ⟨[
    "ac", "biz", "co", "com", "edu", "gob", "in", "info", "int", "mil", "net", "nom", "org", "web"],
    [], []⟩),
  ("nl", ⟨[
    "123website", "blogspot", "cistron", "co", "demon", "gov", "hosting-cluster", "khplay",
    "myspreadshop"], ["transurl"], []⟩),
  ("no", ⟨[
    "123hjemmeside", "aa", "aarborte", "aejrie", "afjord", "agdenes", "ah", "aknoluokta",
    "akrehamn", "al", "alaheadju", "alesund", "algard", "alstahaug", "alta", "alvdal", "amli",
    "amot", "andasuolo", "andebu", "andoy", "andøy", "ardal", "aremark", "arendal", "arna",
    "aseral", "asker", "askim", "askoy", "askvoll", "askøy", "asnes", "audnedaln", "aukra", "aure",
    "aurland", "aurskog-holand", "aurskog-høland", "austevoll", "austrheim", "averoy", "averøy",
    "badaddja", "bahcavuotna", "bahccavuotna", "baidar", "bajddar", "balat", "balestrand",
    "ballangen", "balsfjord", "bamble", "bardu", "barum", "batsfjord", "bearalvahki", "bearalváhki",
    "beardu", "beiarn", "berg", "bergen", "berlevag", "berlevåg", "bievat", "bievát", "bindal",
    "birkenes", "bjarkoy", "bjarkøy", "bjerkreim", "bjugn", "blogspot", "bo.nordland",
    "bo.telemark", "bodo", "bodø", "bokn", "bomlo", "bremanger", "bronnoy", "bronnoysund",
    "brumunddal", "bryne", "brønnøy", "brønnøysund", "bu", "budejju", "bygland", "bykle",
    "báhcavuotna", "báhccavuotna", "báidár", "bájddar", "bálát", "bådåddjå", "båtsfjord", "bærum",
    "bø.nordland", "bø.telemark", "bømlo", "cahcesuolo", "co", "davvenjarga", "davvenjárga",
    "davvesiida", "deatnu", "dep", "dielddanuorri", "divtasvuodna", "divttasvuotna", "donna",
    "dovre", "drammen", "drangedal", "drobak", "drøbak", "dyroy", "dyrøy", "dønna", "egersund",
    "eid", "eidfjord", "eidsberg", "eidskog", "eidsvoll", "eigersund", "elverum", "enebakk",
    "engerdal", "etne", "etnedal", "evenassi", "evenes", "evenášši", "evje-og-hornnes", "farsund",
    "fauske", "fedje", "fet", "fetsund", "fhs", "finnoy", "finnøy", "fitjar", "fjaler", "fjell",
    "fla", "flakstad", "flatanger", "flekkefjord", "flesberg", "flora", "floro", "florø", "flå",
    "fm", "folkebibl", "folldal", "forde", "forsand", "fosnes", "frana", "fredrikstad", "frei",
    "frogn", "froland", "frosta", "froya", "fræna", "frøya", "fuoisku", "fuossko", "fusa",
    "fylkesbibl", "fyresdal", "førde", "gaivuotna", "galsa", "gamvik", "gangaviika", "gaular",
    "gausdal", "giehtavuoatna", "gildeskal", "gildeskål", "giske", "gjemnes", "gjerdrum",
    "gjerstad", "gjesdal", "gjovik", "gjøvik", "gloppen", "gol", "gran", "grane", "granvin",
    "gratangen", "grimstad", "grong", "grue", "gs.aa", "gs.ah", "gs.bu", "gs.fm", "gs.hl", "gs.hm",
    "gs.jan-mayen", "gs.mr", "gs.nl", "gs.nt", "gs.of", "gs.ol", "gs.oslo", "gs.rl", "gs.sf",
    "gs.st", "gs.svalbard", "gs.tm", "gs.tr", "gs.va", "gs.vf", "gulen", "guovdageaidnu",
    "gáivuotna", "gálsá", "gáŋgaviika", "ha", "habmer", "hadsel", "hagebostad", "halden", "halsa",
    "hamar", "hamaroy", "hammarfeasta", "hammerfest", "hapmir", "haram", "hareid", "harstad",
    "hasvik", "hattfjelldal", "haugesund", "hemne", "hemnes", "hemsedal", "herad",
    "heroy.more-og-romsdal", "heroy.nordland", "herøy.møre-og-romsdal", "herøy.nordland", "hitra",
    "hjartdal", "hjelmeland", "hl", "hm", "hobol", "hobøl", "hof", "hokksund", "hol", "hole",
    "holmestrand", "holtalen", "holtålen", "honefoss", "hornindal", "horten", "hoyanger",
    "hoylandet", "hurdal", "hurum", "hvaler", "hyllestad", "hábmer", "hámmárfeasta", "hápmir", "hå",
    "hægebostad", "hønefoss", "høyanger", "høylandet", "ibestad", "idrett", "inderoy", "inderøy",
    "iveland", "ivgu", "jan-mayen", "jessheim", "jevnaker", "jolster", "jondal", "jorpeland",
    "jølster", "jørpeland", "kafjord", "karasjohka", "karasjok", "karlsoy", "karmoy", "karmøy",
    "kautokeino", "kirkenes", "klabu", "klepp", "klæbu", "kommune", "kongsberg", "kongsvinger",
    "kopervik", "kraanghke", "kragero", "kragerø", "kristiansand", "kristiansund", "krodsherad",
    "krokstadelva", "kråanghke", "krødsherad", "kvafjord", "kvalsund", "kvam", "kvanangen",
    "kvinesdal", "kvinnherad", "kviteseid", "kvitsoy", "kvitsøy", "kvæfjord", "kvænangen",
    "kárášjohka", "kåfjord", "laakesvuemie", "lahppi", "langevag", "langevåg", "lardal", "larvik",
    "lavagis", "lavangen", "leangaviika", "leaŋgaviika", "lebesby", "leikanger", "leirfjord",
    "leirvik", "leka", "leksvik", "lenvik", "lerdal", "lesja", "levanger", "lier", "lierne",
    "lillehammer", "lillesand", "lindas", "lindesnes", "lindås", "loabat", "loabát", "lodingen",
    "lom", "loppa", "lorenskog", "loten", "lund", "lunner", "luroy", "lurøy", "luster", "lyngdal",
    "lyngen", "láhppi", "lærdal", "lødingen", "lørenskog", "løten", "malatvuopmi", "malselv",
    "malvik", "mandal", "marker", "marnardal", "masfjorden", "masoy", "matta-varjjat", "meland",
    "meldal", "melhus", "meloy", "meløy", "meraker", "meråker", "midsund", "midtre-gauldal", "mil",
    "mjondalen", "mjøndalen", "mo-i-rana", "moareke", "modalen", "modum", "molde", "mosjoen",
    "mosjøen", "moskenes", "moss", "mosvik", "moåreke", "mr", "muosat", "muosát", "museum",
    "myspreadshop", "málatvuopmi", "mátta-várjjat", "målselv", "måsøy", "naamesjevuemie",
    "namdalseid", "namsos", "namsskogan", "nannestad", "naroy", "narviika", "narvik", "naustdal",
    "navuotna", "nedre-eiker", "nes.akershus", "nes.buskerud", "nesna", "nesodden", "nesoddtangen",
    "nesseby", "nesset", "nissedal", "nittedal", "nl", "nord-aurdal", "nord-fron", "nord-odal",
    "norddal", "nordkapp", "nordre-land", "nordreisa", "nore-og-uvdal", "notodden", "notteroy",
    "nt", "návuotna", "nååmesjevuemie", "nærøy", "nøtterøy", "odda", "of", "oksnes", "ol",
    "omasvuotna", "oppdal", "oppegard", "oppegård", "orkanger", "orkdal", "orland", "orskog",
    "orsta", "os.hedmark", "os.hordaland", "osen", "oslo", "osoyro", "osteroy", "osterøy",
    "ostre-toten", "osøyro", "overhalla", "ovre-eiker", "oyer", "oygarden", "oystre-slidre",
    "porsanger", "porsangu", "porsgrunn", "porsáŋgu", "priv", "rade", "radoy", "radøy",
    "rahkkeravju", "raholt", "raisa", "rakkestad", "ralingen", "rana", "randaberg", "rauma",
    "rendalen", "rennebu", "rennesoy", "rennesøy", "rindal", "ringebu", "ringerike", "ringsaker",
    "risor", "rissa", "risør", "rl", "roan", "rodoy", "rollag", "romsa", "romskog", "roros", "rost",
    "royken", "royrvik", "ruovat", "rygge", "ráhkkerávju", "ráisa", "råde", "råholt", "rælingen",
    "rødøy", "rømskog", "røros", "røst", "røyken", "røyrvik", "salangen", "salat", "saltdal",
    "samnanger", "sande.more-og-romsdal", "sande.møre-og-romsdal", "sande.vestfold",
    "sande.xn--mre-og-romsdal-qqb", "sandefjord", "sandnes", "sandnessjoen", "sandnessjøen",
    "sandoy", "sandøy", "sarpsborg", "sauda", "sauherad", "sel", "selbu", "selje", "seljord", "sf",
    "siellak", "sigdal", "siljan", "sirdal", "skanit", "skanland", "skaun", "skedsmo",
    "skedsmokorset", "ski", "skien", "skierva", "skiervá", "skiptvet", "skjak", "skjervoy",
    "skjervøy", "skjåk", "skodje", "skánit", "skånland", "slattum", "smola", "smøla", "snaase",
    "snasa", "snillfjord", "snoasa", "snåase", "snåsa", "sogndal", "sogne", "sokndal", "sola",
    "solund", "somna", "sondre-land", "songdalen", "sor-aurdal", "sor-fron", "sor-odal",
    "sor-varanger", "sorfold", "sorreisa", "sortland", "sorum", "spjelkavik", "spydeberg", "st",
    "stange", "stat", "stathelle", "stavanger", "stavern", "steigen", "steinkjer", "stjordal",
    "stjordalshalsen", "stjørdal", "stjørdalshalsen", "stokke", "stor-elvdal", "stord", "stordal",
    "storfjord", "strand", "stranda", "stryn", "sula", "suldal", "sund", "sunndal", "surnadal",
    "svalbard", "sveio", "svelvik", "sykkylven", "sálat", "sálát", "søgne", "sømna", "søndre-land",
    "sør-aurdal", "sør-fron", "sør-odal", "sør-varanger", "sørfold", "sørreisa", "sørum", "tana",
    "tananger", "time", "tingvoll", "tinn", "tjeldsund", "tjome", "tjøme", "tm", "tokke", "tolga",
    "tonsberg", "torsken", "tr", "trana", "tranby", "tranoy", "tranøy", "troandin", "trogstad",
    "tromsa", "tromso", "tromsø", "trondheim", "trysil", "træna", "trøgstad", "tvedestrand",
    "tydal", "tynset", "tysfjord", "tysnes", "tysvar", "tysvær", "tønsberg", "ullensaker",
    "ullensvang", "ulvik", "unjarga", "unjárga", "utsira", "va", "vaapste", "vadso", "vadsø",
    "vaga", "vagan", "vagsoy", "vaksdal", "valer.hedmark", "valer.ostfold", "valle", "vang",
    "vanylven", "vardo", "vardø", "varggat", "varoy", "vefsn", "vega", "vegarshei", "vegårshei",
    "vennesla", "verdal", "verran", "vestby", "vestnes", "vestre-slidre", "vestre-toten",
    "vestvagoy", "vestvågøy", "vevelstad", "vf", "vgs", "vik", "vikna", "vindafjord", "voagat",
    "volda", "voss", "vossevangen", "várggát", "vågan", "vågsøy", "vågå", "våler.hedmark",
    "våler.østfold", "værøy", "xn--andy-ira", "xn--asky-ira", "xn--aurskog-hland-jnb",
    "xn--avery-yua", "xn--b-5ga.nordland", "xn--b-5ga.telemark", "xn--bdddj-mrabd",
    "xn--bearalvhki-y4a", "xn--berlevg-jxa", "xn--bhcavuotna-s4a", "xn--bhccavuotna-k7a",
    "xn--bidr-5nac", "xn--bievt-0qa", "xn--bjarky-fya", "xn--bjddar-pta", "xn--blt-elab",
    "xn--bmlo-gra", "xn--bod-2na", "xn--brnny-wuac", "xn--brnnysund-m8ac", "xn--brum-voa",
    "xn--btsfjord-9za", "xn--davvenjrga-y4a", "xn--dnna-gra", "xn--drbak-wua", "xn--dyry-ira",
    "xn--eveni-0qa01ga", "xn--finny-yua", "xn--fjord-lra", "xn--fl-zia", "xn--flor-jra",
    "xn--frde-gra", "xn--frna-woa", "xn--frya-hra", "xn--ggaviika-8ya47h", "xn--gildeskl-g0a",
    "xn--givuotna-8ya", "xn--gjvik-wua", "xn--gls-elac", "xn--h-2fa", "xn--hbmer-xqa",
    "xn--hcesuolo-7ya35b", "xn--hery-ira.nordland", "xn--hery-ira.xn--mre-og-romsdal-qqb",
    "xn--hgebostad-g3a", "xn--hmmrfeasta-s4ac", "xn--hnefoss-q1a", "xn--hobl-ira",
    "xn--holtlen-hxa", "xn--hpmir-xqa", "xn--hyanger-q1a", "xn--hylandet-54a", "xn--indery-fya",
    "xn--jlster-bya", "xn--jrpeland-54a", "xn--karmy-yua", "xn--kfjord-iua", "xn--klbu-woa",
    "xn--koluokta-7ya57h", "xn--krager-gya", "xn--kranghke-b0a", "xn--krdsherad-m8a",
    "xn--krehamn-dxa", "xn--krjohka-hwab49j", "xn--ksnes-uua", "xn--kvfjord-nxa", "xn--kvitsy-fya",
    "xn--kvnangen-k0a", "xn--l-1fa", "xn--laheadju-7ya", "xn--langevg-jxa", "xn--ldingen-q1a",
    "xn--leagaviika-52b", "xn--lesund-hua", "xn--lgrd-poac", "xn--lhppi-xqa", "xn--linds-pra",
    "xn--loabt-0qa", "xn--lrdal-sra", "xn--lrenskog-54a", "xn--lt-liac", "xn--lten-gra",
    "xn--lury-ira", "xn--mely-ira", "xn--merker-kua", "xn--mjndalen-64a", "xn--mlatvuopmi-s4a",
    "xn--mli-tla", "xn--mlselv-iua", "xn--moreke-jua", "xn--mosjen-eya", "xn--mot-tla",
    "xn--msy-ula0h", "xn--mtta-vrjjat-k7af", "xn--muost-0qa", "xn--nmesjevuemie-tcba",
    "xn--nry-yla5g", "xn--nttery-byae", "xn--nvuotna-hwa", "xn--oppegrd-ixa", "xn--ostery-fya",
    "xn--osyro-wua", "xn--porsgu-sta26f", "xn--rady-ira", "xn--rdal-poa", "xn--rde-ula",
    "xn--rdy-0nab", "xn--rennesy-v1a", "xn--rhkkervju-01af", "xn--rholt-mra", "xn--risa-5na",
    "xn--risr-ira", "xn--rland-uua", "xn--rlingen-mxa", "xn--rmskog-bya", "xn--rros-gra",
    "xn--rskog-uua", "xn--rst-0na", "xn--rsta-fra", "xn--ryken-vua", "xn--ryrvik-bya", "xn--s-1fa",
    "xn--sandnessjen-ogb", "xn--sandy-yua", "xn--seral-lra", "xn--sgne-gra", "xn--skierv-uta",
    "xn--skjervy-v1a", "xn--skjk-soa", "xn--sknit-yqa", "xn--sknland-fxa", "xn--slat-5na",
    "xn--slt-elab", "xn--smla-hra", "xn--smna-gra", "xn--snase-nra", "xn--sndre-land-0cb",
    "xn--snes-poa", "xn--snsa-roa", "xn--sr-aurdal-l8a", "xn--sr-fron-q1a", "xn--sr-odal-q1a",
    "xn--sr-varanger-ggb", "xn--srfold-bya", "xn--srreisa-q1a", "xn--srum-gra", "xn--stjrdal-s1a",
    "xn--stjrdalshalsen-sqb", "xn--stre-toten-zcb", "xn--tjme-hra", "xn--tnsberg-q1a",
    "xn--trany-yua", "xn--trgstad-r1a", "xn--trna-woa", "xn--troms-zua", "xn--tysvr-vra",
    "xn--unjrga-rta", "xn--vads-jra", "xn--vard-jra", "xn--vegrshei-c0a", "xn--vestvgy-ixa6o",
    "xn--vg-yiab", "xn--vgan-qoa", "xn--vgsy-qoa0j", "xn--vler-qoa.hedmark",
    "xn--vler-qoa.xn--stfold-9xa", "xn--vre-eiker-k8a", "xn--vrggt-xqad", "xn--vry-yla5g",
    "xn--yer-zna", "xn--ygarden-p1a", "xn--ystre-slidre-ujb", "ákŋoluokta", "álaheadju", "áltá",
    "åfjord", "åkrehamn", "ål", "ålesund", "ålgård", "åmli", "åmot", "årdal", "ås", "åseral",
    "åsnes", "øksnes", "ørland", "ørskog", "ørsta", "østre-toten", "øvre-eiker", "øyer", "øygarden",
    "øystre-slidre", "čáhcesuolo"], [], []⟩),
  ("np", ⟨[], [""], []⟩),
  ("nr", ⟨["biz", "com", "edu", "gov", "info", "net", "org"], [], []⟩),
  ("nu", ⟨["enterprisecloud", "merseine", "mine", "shacknet"], [], []⟩),
  ("nz", ⟨[
    "ac", "blogspot.co", "co", "cri", "geek", "gen", "govt", "health", "iwi", "kiwi", "maori",
    "mil", "māori", "net", "org", "parliament", "school", "xn--mori-qsa"], [], []⟩),
  ("om", ⟨["co", "com", "edu", "gov", "med", "museum", "net", "org", "pro"], [], []⟩),
  ("one", ⟨["homelink", "onred", "service", "staging.onred"], [], []⟩),
  ("online", ⟨["barsy", "eero", "eero-stage"], [], []⟩),
  ("orange", ⟨["tech"], [], []⟩),
  ("org", ⟨[
    "accesscam", "ae", "al.eu", "altervista", "app.os.fedoraproject", "app.os.stg.fedoraproject",
    "asso.eu", "at.eu", "au.eu", "barsy", "be.eu", "bg.eu", "blogdns", "blogsite", "bmoattachments",
    "boldlygoingnowhere", "c.cdn77", "ca.eu", "cable-modem", "camdvr", "cd.eu", "certmgr", "ch.eu",
    "cloud.fedoraproject", "cloudns", "cn.eu", "collegefan", "couchpotatofries", "cy.eu", "cz.eu",
    "ddnss", "de.eu", "diskstation", "dk.eu", "dnsalias", "dnsdojo", "doesntexist", "dontexist",
    "doomdns", "dsmynas", "duckdns", "dvrdns", "dynalias", "dyndns", "dynserv", "edu.eu", "ee.eu",
    "endofinternet", "endoftheinternet", "es.eu", "eu", "familyds", "fedorainfracloud",
    "fedorapeople", "fi.eu", "fr.eu", "freeddns", "freedesktop", "from-me", "game-host",
    "go.dyndns", "gotdns", "gr.eu", "hepforge", "hk", "hobby-site", "home.dyndns", "homedns",
    "homeftp", "homelinux", "homeunix", "hopto", "hr.eu", "httpbin", "hu.eu", "ie.eu", "il.eu",
    "in-dsl", "in-vpn", "in.eu", "int.eu", "is-a-bruinsfan", "is-a-candidate", "is-a-celticsfan",
    "is-a-chef", "is-a-geek", "is-a-knight", "is-a-linux-user", "is-a-patsfan", "is-a-soxfan",
    "is-found", "is-lost", "is-saved", "is-very-bad", "is-very-evil", "is-very-good",
    "is-very-nice", "is-very-sweet", "is.eu", "isa-geek", "it.eu", "jp.eu", "jpn", "js",
    "kicks-ass", "kr.eu", "lt.eu", "lu.eu", "lv.eu", "mayfirst", "mc.eu", "me.eu", "misconfused",
    "mk.eu", "mlbfan", "mozilla-iot", "mt.eu", "my-firewall", "my.eu", "myfirewall", "myftp",
    "mysecuritycamera", "mywire", "net.eu", "nflfan", "ng.eu", "nl.eu", "no-ip", "no.eu", "now-dns",
    "nz.eu", "paris.eu", "pimienta", "pl.eu", "podzone", "poivron", "potager", "pt.eu", "pubtls",
    "q-a.eu", "read-books", "readmyblog", "ro.eu", "rsc.cdn77", "ru.eu", "s3.teckids", "se.eu",
    "selfip", "sellsyourhome", "servebbs", "serveftp", "servegame", "si.eu", "sk.eu", "small-web",
    "spdns", "ssl.origin.cdn77-secure", "stuff-4-sale", "sweetpepper", "tele.amune", "toolforge",
    "tr.eu", "tunk", "tuxfamily", "twmail", "ufcfan", "uk.eu", "us", "us.eu", "webhop",
    "webredirect", "wmcloud", "wmflabs", "za", "zapto"], [], []⟩),
  ("ovh", ⟨["nerdpol"], [], []⟩),
  ("pa", ⟨["abo", "ac", "com", "edu", "gob", "ing", "med", "net", "nom", "org", "sld"], [], []⟩),
  ("page", ⟨[
    "codeberg", "hlx", "hlx3", "magnet", "pdns", "plesk", "prvcy", "rocky", "translated"], [],
    []⟩),
  ("party", ⟨["ybo"], [], []⟩),
  ("pe", ⟨["blogspot", "com", "edu", "gob", "mil", "net", "nom", "org"], [], []⟩),
  ("pf", ⟨["com", "edu", "org"], [], []⟩),
  ("pg", ⟨[], [""], []⟩),
  ("ph", ⟨["com", "edu", "gov", "i", "mil", "net", "ngo", "org"], [], []⟩),
  ("photos", ⟨["framer"], [], []⟩),
  ("pictures", ⟨["1337"], [], []⟩),
  ("pizza", ⟨["ngrok"], [], []⟩),
  ("pk", ⟨[
    "biz", "com", "edu", "fam", "gob", "gok", "gon", "gop", "gos", "gov", "info", "net", "org",
    "web"], [], []⟩),
  ("pl", ⟨[
    "agro", "aid", "ap.gov", "art", "atm", "augustow", "auto", "babia-gora", "bedzin", "beep",
    "beskidy", "bialowieza", "bialystok", "bielawa", "bieszczady", "biz", "boleslawiec",
    "bydgoszcz", "bytom", "cieszyn", "co", "com", "czeladz", "czest", "dlugoleka", "ecommerce-shop",
    "edu", "elblag", "elk", "gda", "gdansk", "gdynia", "gliwice", "glogow", "gmina", "gniezno",
    "gorlice", "gov", "grajewo", "griw.gov", "gsm", "homesklep", "ic.gov", "ilawa", "info",
    "is.gov", "jaworzno", "jelenia-gora", "jgora", "kalisz", "karpacz", "kartuzy", "kaszuby",
    "katowice", "kazimierz-dolny", "kepno", "ketrzyn", "klodzko", "kmpsp.gov", "kobierzyce",
    "kolobrzeg", "konin", "konskowola", "konsulat.gov", "kppsp.gov", "krakow", "krasnik", "kutno",
    "kwp.gov", "kwpsp.gov", "lapy", "lebork", "leczna", "legnica", "lezajsk", "limanowa", "lomza",
    "lowicz", "lubartow", "lubin", "lublin", "lukow", "mail", "malbork", "malopolska", "mazowsze",
    "mazury", "med", "media", "miasta", "mielec", "mielno", "mil", "mragowo", "mup.gov", "mw.gov",
    "myspreadshop", "naklo", "net", "nieruchomosci", "nom", "nowaruda", "nysa", "oia.gov",
    "oirm.gov", "oke.gov", "olawa", "olecko", "olkusz", "olsztyn", "oow.gov", "opoczno", "opole",
    "org", "oschr.gov", "ostroda", "ostroleka", "ostrowiec", "ostrowwlkp", "oum.gov", "pa.gov",
    "pc", "pila", "pinb.gov", "pisz", "piw.gov", "po.gov", "podhale", "podlasie", "polkowice",
    "pomorskie", "pomorze", "poniatowa", "powiat", "poznan", "pr.gov", "priv", "prochowice",
    "pruszkow", "przeworsk", "psp.gov", "psse.gov", "pulawy", "pup.gov", "radom", "rawa-maz",
    "realestate", "rel", "rybnik", "rzeszow", "rzgw.gov", "sa.gov", "sanok", "sdn.gov", "sdscloud",
    "sejny", "sex", "shop", "shoparena", "simplesite", "sklep", "sko.gov", "skoczow", "slask",
    "slupsk", "so.gov", "sopot", "sos", "sosnowiec", "sr.gov", "stalowa-wola", "starachowice",
    "stargard", "starostwo.gov", "suwalki", "swidnica", "swidnik", "swiebodzin", "swinoujscie",
    "szczecin", "szczytno", "szkola", "targi", "tarnobrzeg", "tgory", "tm", "tourism", "travel",
    "turek", "turystyka", "tychy", "ug.gov", "ugim.gov", "um.gov", "umig.gov", "unicloud",
    "upow.gov", "uppo.gov", "us.gov", "ustka", "uw.gov", "uzs.gov", "walbrzych", "warmia",
    "warszawa", "waw", "wegrow", "wielun", "wif.gov", "wiih.gov", "winb.gov", "wios.gov",
    "witd.gov", "wiw.gov", "wkz.gov", "wlocl", "wloclawek", "wodzislaw", "wolomin", "wroc",
    "wroclaw", "wsa.gov", "wskr.gov", "wsse.gov", "wuoz.gov", "wzmiuw.gov", "zachpomor", "zagan",
    "zakopane", "zarow", "zgora", "zgorzelec", "zp.gov", "zpisdn.gov"], [], []⟩),
  ("place", ⟨["co"], [], []⟩),
  ("pm", ⟨["name", "own"], [], []⟩),
  ("pn", ⟨["co", "edu", "gov", "net", "org"], [], []⟩),
  ("porn", ⟨["indie"], [], []⟩),
  ("pr", ⟨[
    "ac", "biz", "com", "edu", "est", "gov", "info", "isla", "name", "net", "org", "pro", "prof"],
    [], []⟩),
  ("pro", ⟨[
    "aaa", "aca", "acct", "avocat", "bar", "barsy", "bci.dnstrace", "cloudns", "cpa", "eng", "jur",
    "law", "med", "recht"], [], []⟩),
  ("ps", ⟨["com", "edu", "gov", "net", "org", "plo", "sec"], [], []⟩),
  ("pt", ⟨[
    "123paginaweb", "blogspot", "com", "edu", "gov", "int", "net", "nome", "org", "publ"], [],
    []⟩),
  ("pub", ⟨["barsy"], [], []⟩),
  ("pw", ⟨["belau", "cloudns", "co", "ed", "go", "ne", "or", "x443"], [], []⟩),
  ("py", ⟨["com", "coop", "edu", "gov", "mil", "net", "org"], [], []⟩),
  ("qa", ⟨["blogspot", "com", "edu", "gov", "mil", "name", "net", "org", "sch"], [], []⟩),
  ("re", ⟨["asso", "blogspot", "com", "nom"], [], []⟩),
  ("review", ⟨["ybo"], [], []⟩),
  ("rip", ⟨["clan"], [], []⟩),
  ("ro", ⟨[
    "arts", "barsy", "blogspot", "co", "com", "firm", "info", "nom", "nt", "org", "rec", "shop",
    "store", "tm", "www"], [], []⟩),
  ("rocks", ⟨["lima-city", "myddns", "webspace"], [], []⟩),
  ("rs", ⟨[
    "ac", "blogspot", "co", "edu", "gov", "in", "org", "ox", "shop.brendly", "ua"], [], []⟩),
  ("ru", ⟨[
    "123sait", "ac", "adygeya", "bashkiria", "bir", "blogspot", "cbg", "com", "dagestan", "edu",
    "eurodir", "gov", "grozny", "hb.cldmail", "int", "jelastic.regruhosting", "kalmykia",
    "kustanai", "lk3", "marine", "mcdir", "mcpre", "mil", "mircloud", "mordovia", "msk", "myjino",
    "mytis", "na4u", "nalchik", "net", "nov", "org", "pp", "pyatigorsk", "ras", "spb", "test",
    "vladikavkaz", "vladimir", "vps.mcdir"],
    ["hosting.myjino", "landing.myjino", "spectrum.myjino", "vps.myjino"], []⟩),
  ("run", ⟨[
    "development", "hs", "onporter", "ravendb", "repl", "servers", "wix"],
    ["build", "code", "database", "migration"], []⟩),
  ("rw", ⟨["ac", "co", "coop", "gov", "mil", "net", "org"], [], []⟩),
  ("sa", ⟨["com", "edu", "gov", "med", "net", "org", "pub", "sch"], [], []⟩),
  ("sb", ⟨["com", "edu", "gov", "net", "org"], [], []⟩),
  ("sc", ⟨["com", "edu", "gov", "net", "org"], [], []⟩),
  ("science", ⟨["ybo"], [], []⟩),
  ("scot", ⟨["edu", "gov", "service.gov"], [], []⟩),
  ("sd", ⟨["com", "edu", "gov", "info", "med", "net", "org", "tv"], [], []⟩),
  ("se", ⟨[
    "123minsida", "a", "ac", "b", "bd", "blogspot", "brand", "c", "com", "conf", "d", "e", "f",
    "fh", "fhsk", "fhv", "g", "h", "i", "iopsys", "itcouldbewor", "k", "komforb", "kommunalforbund",
    "komvux", "l", "lanbib", "m", "myspreadshop", "n", "naturbruksgymn", "o", "org", "p", "parti",
    "pp", "press", "r", "s", "su.paba", "t", "tm", "u", "w", "x", "y", "z"], [], []⟩),
  ("services", ⟨["loginline"], [], []⟩),
  ("sg", ⟨["blogspot", "com", "edu", "enscaled", "gov", "net", "org", "per"], [], []⟩),
  ("sh", ⟨[
    "bc.platform", "bip", "com", "ent.platform", "eu.platform", "gov", "hashbang", "mil", "net",
    "now", "org", "us.platform", "vxl", "wedeploy"], [], []⟩),
  ("shop", ⟨["barsy", "base", "hoplix"], [], []⟩),
  ("si", ⟨["blogspot", "gitapp", "gitpage"], [], []⟩),
  ("site", ⟨[
    "barsy", "byen", "cyon", "fastvps", "fnwk", "folionetwork", "jele", "lelux", "loginline",
    "mintere", "novecore", "omniwe", "opensocial", "srht"], ["cloudera", "platformsh", "tst"],
    []⟩),
  ("sk", ⟨["blogspot"], [], []⟩),
  ("sl", ⟨["com", "edu", "gov", "net", "org"], [], []⟩),
  ("sn", ⟨["art", "blogspot", "com", "edu", "gouv", "org", "perso", "univ"], [], []⟩),
  ("so", ⟨["com", "edu", "gov", "me", "net", "org", "sch"], [], []⟩),
  ("solutions", ⟨[], ["diher"], []⟩),
  ("space", ⟨["myfast", "uber", "xs4all"], [], []⟩),
  ("ss", ⟨["biz", "com", "edu", "gov", "me", "net", "org", "sch"], [], []⟩),
  ("st", ⟨[
    "co", "com", "consulado", "edu", "embaixada", "kirara", "mil", "net", "noho", "org", "principe",
    "saotome", "store"], [], []⟩),
  ("store", ⟨["sellfy", "shopware", "storebase"], [], []⟩),
  ("su", ⟨[
    "abkhazia", "adygeya", "aktyubinsk", "arkhangelsk", "armenia", "ashgabad", "azerbaijan",
    "balashov", "bashkiria", "bryansk", "bukhara", "chimkent", "dagestan", "east-kazakhstan",
    "exnet", "georgia", "grozny", "ivanovo", "jambyl", "kalmykia", "kaluga", "karacol", "karaganda",
    "karelia", "khakassia", "krasnodar", "kurgan", "kustanai", "lenug", "mangyshlak", "mordovia",
    "msk", "murmansk", "nalchik", "navoi", "north-kazakhstan", "nov", "obninsk", "penza",
    "pokrovsk", "sochi", "spb", "tashkent", "termez", "togliatti", "troitsk", "tselinograd", "tula",
    "tuva", "vladikavkaz", "vladimir", "vologda"], [], []⟩),
  ("support", ⟨["barsy"], [], []⟩),
  ("sv", ⟨["com", "edu", "gob", "org", "red"], [], []⟩),
  ("sx", ⟨["gov"], [], []⟩),
  ("sy", ⟨["com", "edu", "gov", "mil", "net", "org"], [], []⟩),
  ("systems", ⟨["knightpoint"], [], []⟩),
  ("sz", ⟨["ac", "co", "org"], [], []⟩),
  ("tc", ⟨["ch", "me", "we"], [], []⟩),
  ("td", ⟨["blogspot"], [], []⟩),
  ("team", ⟨["discourse", "jelastic"], [], []⟩),
  ("technology", ⟨["co"], [], []⟩),
  ("tf", ⟨["sch"], [], []⟩),
  ("th", ⟨["ac", "co", "go", "in", "mi", "net", "online", "or", "shop"], [], []⟩),
  ("tj", ⟨[
    "ac", "biz", "co", "com", "edu", "go", "gov", "int", "mil", "name", "net", "nic", "org", "test",
    "web"], [], []⟩),
  ("tl", ⟨["gov"], [], []⟩),
  ("tm", ⟨["co", "com", "edu", "gov", "mil", "net", "nom", "org"], [], []⟩),
  ("tn", ⟨[
    "com", "ens", "fin", "gov", "ind", "info", "intl", "mincom", "nat", "net", "orangecloud", "org",
    "perso", "tourism"], [], []⟩),
  ("to", ⟨[
    "611", "com", "direct.quickconnect", "edu", "gov", "mil", "net", "nyan", "org", "oya", "rdv",
    "vpnplus", "x0"], [], []⟩),
  ("today", ⟨["prequalifyme"], [], []⟩),
  ("top", ⟨["now-dns", "ntdll"], [], []⟩),
  ("tr", ⟨[
    "av", "bbs", "bel", "biz", "blogspot.com", "com", "dr", "edu", "gen", "gov", "gov.nc", "info",
    "k12", "kep", "mil", "name", "nc", "net", "org", "pol", "tel", "tsk", "tv", "web"], [], []⟩),
  ("trade", ⟨["ybo"], [], []⟩),
  ("tt", ⟨[
    "aero", "biz", "co", "com", "coop", "edu", "gov", "info", "int", "jobs", "mobi", "museum",
    "name", "net", "org", "pro", "travel"], [], []⟩),
  ("tv", ⟨["better-than", "dyndns", "from", "on-the-web", "sakura", "worse-than"], [], []⟩),
  ("tw", ⟨[
    "blogspot", "club", "com", "ebiz", "edu", "game", "gov", "idv", "mil", "mymailer.com", "net",
    "org", "url", "xn--czrw28b", "xn--uc0atv", "xn--zf0ao64a", "商業", "組織", "網路"], [], []⟩),
  ("tz", ⟨[
    "ac", "co", "go", "hotel", "info", "me", "mil", "mobi", "ne", "or", "sc", "tv"], [], []⟩),
  ("ua", ⟨[
    "biz", "cc", "cherkassy", "cherkasy", "chernigov", "chernihiv", "chernivtsi", "chernovtsy",
    "ck", "cn", "co", "com", "cr", "crimea", "cv", "cx", "dn", "dnepropetrovsk", "dnipropetrovsk",
    "donetsk", "dp", "edu", "gov", "ie", "if", "in", "inf", "ivano-frankivsk", "kh", "kharkiv",
    "kharkov", "kherson", "khmelnitskiy", "khmelnytskyi", "kiev", "kirovograd", "km", "kr",
    "kropyvnytskyi", "krym", "ks", "kv", "kyiv", "lg", "lt", "ltd", "lugansk", "luhansk", "lutsk",
    "lv", "lviv", "mk", "mykolaiv", "net", "nikolaev", "od", "odesa", "odessa", "org", "pl",
    "poltava", "pp", "rivne", "rovno", "rv", "sb", "sebastopol", "sevastopol", "sm", "sumy", "te",
    "ternopil", "uz", "uzhgorod", "uzhhorod", "v", "vinnica", "vinnytsia", "vn", "volyn", "yalta",
    "zakarpattia", "zaporizhzhe", "zaporizhzhia", "zhitomir", "zhytomyr", "zp", "zt"], [], []⟩),
  ("ug", ⟨["ac", "blogspot", "co", "com", "go", "ne", "or", "org", "sc"], [], []⟩),
  ("uk", ⟨[
    "ac", "adimo.co", "affinitylottery.org", "api.gov", "barsy", "barsy.co", "barsyonline.co",
    "blogspot.co", "campaign.gov", "co", "conn", "copro", "cust.retrosnub.co", "dh.bytemark.co",
    "glug.org", "gov", "homeoffice.gov", "hosp", "independent-commission", "independent-inquest",
    "independent-inquiry", "independent-panel", "independent-review", "j.layershift.co", "ltd",
    "lug.org", "lugs.org", "me", "myspreadshop.co", "net", "nh-serv.co", "nhs", "no-ip.co", "org",
    "plc", "police", "public-inquiry", "pymnt", "raffleentry.org", "royal-commission",
    "service.gov", "vm.bytemark.co", "weeklylottery.org", "wellbeingzone.co"], ["sch"], []⟩),
  ("us", ⟨[
    "ak", "al", "ann-arbor.mi", "ar", "as", "az", "ca", "cc.ak", "cc.al", "cc.ar", "cc.as", "cc.az",
    "cc.ca", "cc.co", "cc.ct", "cc.dc", "cc.de", "cc.fl", "cc.ga", "cc.gu", "cc.hi", "cc.ia",
    "cc.id", "cc.il", "cc.in", "cc.ks", "cc.ky", "cc.la", "cc.ma", "cc.md", "cc.me", "cc.mi",
    "cc.mn", "cc.mo", "cc.ms", "cc.mt", "cc.nc", "cc.nd", "cc.ne", "cc.nh", "cc.nj", "cc.nm",
    "cc.nv", "cc.ny", "cc.oh", "cc.ok", "cc.or", "cc.pa", "cc.pr", "cc.ri", "cc.sc", "cc.sd",
    "cc.tn", "cc.tx", "cc.ut", "cc.va", "cc.vi", "cc.vt", "cc.wa", "cc.wi", "cc.wv", "cc.wy",
    "chtr.k12.ma", "cloudns", "co", "cog.mi", "ct", "dc", "de", "dni", "drud", "dst.mi", "eaton.mi",
    "fed", "fl", "freeddns", "ga", "gen.mi", "golffan", "graphox", "gu", "hi", "ia", "id", "il",
    "in", "is-by", "isa", "k12.ak", "k12.al", "k12.ar", "k12.as", "k12.az", "k12.ca", "k12.co",
    "k12.ct", "k12.dc", "k12.fl", "k12.ga", "k12.gu", "k12.ia", "k12.id", "k12.il", "k12.in",
    "k12.ks", "k12.ky", "k12.la", "k12.ma", "k12.md", "k12.me", "k12.mi", "k12.mn", "k12.mo",
    "k12.ms", "k12.mt", "k12.nc", "k12.ne", "k12.nh", "k12.nj", "k12.nm", "k12.nv", "k12.ny",
    "k12.oh", "k12.ok", "k12.or", "k12.pa", "k12.pr", "k12.sc", "k12.tn", "k12.tx", "k12.ut",
    "k12.va", "k12.vi", "k12.vt", "k12.wa", "k12.wi", "k12.wy", "kids", "ks", "ky", "la",
    "land-4-sale", "lib.ak", "lib.al", "lib.ar", "lib.as", "lib.az", "lib.ca", "lib.co", "lib.ct",
    "lib.dc", "lib.de", "lib.fl", "lib.ga", "lib.gu", "lib.hi", "lib.ia", "lib.id", "lib.il",
    "lib.in", "lib.ks", "lib.ky", "lib.la", "lib.ma", "lib.md", "lib.me", "lib.mi", "lib.mn",
    "lib.mo", "lib.ms", "lib.mt", "lib.nc", "lib.nd", "lib.ne", "lib.nh", "lib.nj", "lib.nm",
    "lib.nv", "lib.ny", "lib.oh", "lib.ok", "lib.or", "lib.pa", "lib.pr", "lib.ri", "lib.sc",
    "lib.sd", "lib.tn", "lib.tx", "lib.ut", "lib.va", "lib.vi", "lib.vt", "lib.wa", "lib.wi",
    "lib.wy", "ma", "md", "me", "mi", "mircloud", "mn", "mo", "ms", "mt", "mus.mi", "nc", "nd",
    "ne", "nh", "nj", "nm", "noip", "nsn", "nv", "ny", "oh", "ok", "or", "pa", "paroch.k12.ma",
    "phx.enscaled", "platterp", "pointto", "pr", "pvt.k12.ma", "ri", "sc", "sd", "stuff-4-sale",
    "tec.mi", "tn", "tx", "ut", "va", "vi", "vt", "wa", "washtenaw.mi", "wi", "wv", "wy"], [],
    []⟩),
  ("uy", ⟨["blogspot.com", "com", "edu", "gub", "mil", "net", "org"], [], []⟩),
  ("uz", ⟨["co", "com", "net", "org"], [], []⟩),
  ("vc", ⟨["0e", "com", "d.gv", "edu", "gov", "gv", "mil", "net", "org"], [], []⟩),
  ("ve", ⟨[
    "arts", "bib", "co", "com", "e12", "edu", "firm", "gob", "gov", "info", "int", "mil", "net",
    "nom", "org", "rar", "rec", "store", "tec", "web"], [], []⟩),
  ("vg", ⟨["at"], [], []⟩),
  ("vi", ⟨["co", "com", "k12", "net", "org"], [], []⟩),
  ("vn", ⟨[
    "ac", "ai", "angiang", "bacgiang", "backan", "baclieu", "bacninh", "baria-vungtau", "bentre",
    "binhdinh", "binhduong", "binhphuoc", "binhthuan", "biz", "blogspot", "camau", "cantho",
    "caobang", "com", "daklak", "daknong", "danang", "dienbien", "dongnai", "dongthap", "edu",
    "gialai", "gov", "hagiang", "haiduong", "haiphong", "hanam", "hanoi", "hatinh", "haugiang",
    "health", "hoabinh", "hungyen", "id", "info", "int", "io", "khanhhoa", "kiengiang", "kontum",
    "laichau", "lamdong", "langson", "laocai", "longan", "namdinh", "name", "net", "nghean",
    "ninhbinh", "ninhthuan", "org", "phutho", "phuyen", "pro", "quangbinh", "quangnam", "quangngai",
    "quangninh", "quangtri", "soctrang", "sonla", "tayninh", "thaibinh", "thainguyen", "thanhhoa",
    "thanhphohochiminh", "thuathienhue", "tiengiang", "travinh", "tuyenquang", "vinhlong",
    "vinhphuc", "yenbai"], [], []⟩),
  ("vu", ⟨["blog", "cn", "com", "dev", "edu", "me", "net", "org"], [], []⟩),
  ("website", ⟨["framer"], [], []⟩),
  ("wf", ⟨["biz", "sch"], [], []⟩),
  ("wiki", ⟨["framer"], [], []⟩),
  ("ws", ⟨["cloud66", "com", "dyndns", "edu", "gov", "mypets", "net", "org"], ["advisor"], []⟩),
  ("xn--4dbrk0ce", ⟨["xn--4dbgdty6c", "xn--5dbhl8d", "xn--8dbq2a", "xn--hebda8b"], [], []⟩),
  ("xn--90a3ac", ⟨[
    "xn--80au", "xn--90azh", "xn--c1avg", "xn--d1at", "xn--o1ac", "xn--o1ach"], [], []⟩),
  ("xn--j6w193g", ⟨[
    "xn--55qx5d", "xn--gmqw5a", "xn--mxtq1m", "xn--od0alg", "xn--uc0atv", "xn--wcvs22d"], [], []⟩),
  ("xn--o3cw4h", ⟨[
    "xn--12c1fe0br", "xn--12cfi8ixb8l", "xn--12co0c3b4eva", "xn--h3cuzk1di", "xn--m3ch0j3a",
    "xn--o3cyx2a"], [], []⟩),
  ("xn--p1acf", ⟨[
    "xn--41a", "xn--80aaa0cvac", "xn--90a1af", "xn--90amc", "xn--c1avg", "xn--h1ahn", "xn--h1aliz",
    "xn--j1adp", "xn--j1aef", "xn--j1ael8b"], [], []⟩),
  ("xyz", ⟨["blogsite", "crafting", "localzone", "zapto"], ["telebit"], []⟩),
  ("ye", ⟨["com", "edu", "gov", "mil", "net", "org"], [], []⟩),
  ("yt", ⟨["org"], [], []⟩),
  ("za", ⟨[
    "ac", "agric", "alt", "blogspot.co", "co", "edu", "gov", "grondar", "law", "mil", "net", "ngo",
    "nic", "nis", "nom", "org", "school", "tm", "web"], [], []⟩),
  ("zm", ⟨["ac", "biz", "co", "com", "edu", "gov", "info", "mil", "net", "org", "sch"], [], []⟩),
  ("zone", ⟨["cloud66", "hs", "lima"], ["triton"], []⟩),
  ("zw", ⟨["ac", "co", "gov", "mil", "org"], [], []⟩),
  ("рус", ⟨["биз", "ком", "крым", "мир", "мск", "орг", "самара", "сочи", "спб", "я"], [], []⟩),
  ("срб", ⟨["ак", "обр", "од", "орг", "пр", "упр"], [], []⟩),
  ("ישראל", ⟨["אקדמיה", "ישוב", "ממשל", "צהל"], [], []⟩),
  ("ไทย", ⟨["ทหาร", "ธุรกิจ", "รัฐบาล", "ศึกษา", "องค์กร", "เน็ต"], [], []⟩),
  ("香港", ⟨["個人", "公司", "政府", "教育", "組織", "網絡"], [], []⟩)]

end TraceAudit.PublicSuffix
