/-!
# Zones of Africa

Each entry is the name of a zone and its history: the first offset from universal time in seconds,
then every change as `instant:offset` (seconds since 1970 and seconds), and, for a zone that still
changes its clock each year, after a semicolon the first year of the yearly rule with its two
offsets and its two moments. `Presence.Zone.ofHistory?` reads the text.
-/

set_option autoImplicit false

namespace Presence.Zone

/-- Names and histories of the zones of Africa. -/
def africaHistories : List (String × String) := [
  ("Africa/Abidjan",
   "-968 -1830383032:0"),
  ("Africa/Algiers",
   "732 -2486592732:561 -1855958961:0 -1689814800:3600 -1680397200:0 -1665363600:3600 -1648342800:0 -1635123600:3600 -1616893200:0 -1604278800:3600 -1585443600:0 -1574038800:3600 -1552266000:0 -1539997200:3600 -1531443600:0 -956365200:3600 -950486400:0 -942012000:3600 -812502000:7200 -796262400:3600 -781052400:7200 -766630800:3600 -733280400:0 -439430400:3600 -212029200:0 41468400:3600 54774000:0 231724800:3600 259545600:7200 275274000:3600 309740400:0 325468800:3600 341802000:0 357523200:3600"),
  ("Africa/Bissau",
   "-3740 -1830380400:-3600 157770000:0"),
  ("Africa/Cairo",
   "7509 -2185409109:7200 -929844000:10800 -923108400:7200 -906170400:10800 -892868400:7200 -875844000:10800 -857790000:7200 -844308000:10800 -825822000:7200 -812685600:10800 -794199600:7200 -779853600:10800 -762663600:7200 -399088800:10800 -386650800:7200 -368330400:10800 -355114800:7200 -336790800:10800 -323654400:7200 -305168400:10800 -292032000:7200 -273632400:10800 -260496000:7200 -242096400:10800 -228960000:7200 -210560400:10800 -197424000:7200 -178938000:10800 -165801600:7200 -147402000:10800 -134265600:7200 -115866000:10800 -102643200:7200 -84330000:10800 -71107200:7200 -52707600:10800 -39484800:7200 -21171600:10800 -7948800:7200 10364400:10800 23587200:7200 41900400:10800 55123200:7200 73522800:10800 86745600:7200 105058800:10800 118281600:7200 136594800:10800 149817600:7200 168130800:10800 181353600:7200 199753200:10800 212976000:7200 231289200:10800 244512000:7200 262825200:10800 276048000:7200 294361200:10800 307584000:7200 325983600:10800 339206400:7200 357519600:10800 370742400:7200 396399600:10800 402278400:7200 426812400:10800 433814400:7200 452214000:10800 465436800:7200 483750000:10800 496972800:7200 515286000:10800 528508800:7200 546822000:10800 560044800:7200 578444400:10800 591667200:7200 610412400:10800 623203200:7200 641516400:10800 654739200:7200 673052400:10800 686275200:7200 704674800:10800 717897600:7200 736210800:10800 749433600:7200 767746800:10800 780969600:7200 799020000:10800 812322000:7200 830469600:10800 843771600:7200 861919200:10800 875221200:7200 893368800:10800 906670800:7200 925423200:10800 938725200:7200 956872800:10800 970174800:7200 988322400:10800 1001624400:7200 1019772000:10800 1033074000:7200 1051221600:10800 1064523600:7200 1083276000:10800 1096578000:7200 1114725600:10800 1128027600:7200 1146175200:10800 1158872400:7200 1177624800:10800 1189112400:7200 1209074400:10800 1219957200:7200 1240524000:10800 1250802000:7200 1272578400:10800 1281474000:7200 1284069600:10800 1285880400:7200 1400191200:10800 1403816400:7200 1406844000:10800 1411678800:7200; 2023 7200 10800 4.5.5.0 10.5.4.86400"),
  ("Africa/Casablanca",
   "-1820 -1773012580:0 -956361600:3600 -950490000:0 -942019200:3600 -761187600:0 -617241600:3600 -605149200:0 -81432000:3600 -71110800:0 141264000:3600 147222000:0 199756800:3600 207702000:0 231292800:3600 244249200:0 265507200:3600 271033200:0 448243200:3600 504918000:0 1212278400:3600 1220223600:0 1243814400:3600 1250809200:0 1272758400:3600 1281222000:0 1301788800:3600 1312066800:0 1335664800:3600 1342749600:0 1345428000:3600 1348970400:0 1367114400:3600 1373162400:0 1376100000:3600 1382839200:0 1396144800:3600 1403920800:0 1406944800:3600 1414288800:0 1427594400:3600 1434247200:0 1437271200:3600 1445738400:0 1459044000:3600 1465092000:0 1468116000:3600 1477792800:0 1490493600:3600 1495332000:0 1498960800:3600 1509242400:0 1521943200:3600 1526176800:0 1529200800:3600 1557021600:0 1560045600:3600 1587261600:0 1590890400:3600 1618106400:0 1621130400:3600 1648346400:0 1651975200:3600 1679191200:0 1682215200:3600 1710036000:0 1713060000:3600 1740276000:0 1743904800:3600 1771120800:0 1774144800:3600 1801965600:0 1804989600:3600 1832205600:0 1835834400:3600 1863050400:0 1866074400:3600 1893290400:0 1896919200:3600 1924135200:0 1927159200:3600 1954980000:0 1958004000:3600 1985220000:0 1988848800:3600 2016064800:0 2019088800:3600 2046304800:0 2049933600:3600 2077149600:0 2080778400:3600 2107994400:0 2111018400:3600 2138234400:0 2141863200:3600 2169079200:0 2172103200:3600 2199924000:0 2202948000:3600 2230164000:0 2233792800:3600 2261008800:0 2264032800:3600 2291248800:0 2294877600:3600 2322093600:0 2325722400:3600 2352938400:0 2355962400:3600 2383178400:0 2386807200:3600 2414023200:0 2417047200:3600 2444868000:0 2447892000:3600 2475108000:0 2478736800:3600 2505952800:0 2508976800:3600 2536192800:0 2539821600:3600 2567037600:0 2570666400:3600 2597882400:0 2600906400:3600 2628122400:0 2631751200:3600 2658967200:0 2661991200:3600 2689812000:0 2692836000:3600 2720052000:0 2723680800:3600 2750896800:0 2753920800:3600 2781136800:0 2784765600:3600 2811981600:0 2815610400:3600 2842826400:0 2845850400:3600 2873066400:0 2876695200:3600 2903911200:0 2906935200:3600 2934756000:0 2937780000:3600 2964996000:0 2968624800:3600 2995840800:0 2998864800:3600 3026080800:0 3029709600:3600 3056925600:0 3060554400:3600 3087770400:0 3090794400:3600 3118010400:0 3121639200:3600 3148855200:0 3151879200:3600 3179700000:0 3182724000:3600 3209940000:0 3213568800:3600 3240784800:0 3243808800:3600 3271024800:0 3274653600:3600 3301869600:0 3305498400:3600 3332714400:0 3335738400:3600 3362954400:0 3366583200:3600 3393799200:0 3396823200:3600 3424644000:0 3427668000:3600 3454884000:0 3458512800:3600 3485728800:0 3488752800:3600 3515968800:0 3519597600:3600 3546813600:0 3549837600:3600 3577658400:0 3580682400:3600 3607898400:0 3611527200:3600 3638743200:0 3641767200:3600 3669588000:0 3672612000:3600 3699828000:0 3703456800:3600"),
  ("Africa/Ceuta",
   "-1276 -2177452800:0 -1630112400:3600 -1616810400:0 -1442451600:3600 -1427673600:0 -1379293200:3600 -1364774400:0 -1348448400:3600 -1333324800:0 -1316390400:3600 -1301270400:0 -81432000:3600 -71110800:0 141264000:3600 147222000:0 199756800:3600 207702000:0 231292800:3600 244249200:0 265507200:3600 271033200:0 448243200:3600 512528400:7200 528253200:3600 543978000:7200 559702800:3600 575427600:7200 591152400:3600 606877200:7200 622602000:3600 638326800:7200 654656400:3600 670381200:7200 686106000:3600 701830800:7200 717555600:3600 733280400:7200 749005200:3600 764730000:7200 780454800:3600 796179600:7200 811904400:3600; 1996 3600 7200 3.5.0.7200 10.5.0.10800"),
  ("Africa/El_Aaiun",
   "-3168 -1136070432:-3600 198291600:0 199756800:3600 207702000:0 231292800:3600 244249200:0 265507200:3600 271033200:0 1212278400:3600 1220223600:0 1243814400:3600 1250809200:0 1272758400:3600 1281222000:0 1301788800:3600 1312066800:0 1335664800:3600 1342749600:0 1345428000:3600 1348970400:0 1367114400:3600 1373162400:0 1376100000:3600 1382839200:0 1396144800:3600 1403920800:0 1406944800:3600 1414288800:0 1427594400:3600 1434247200:0 1437271200:3600 1445738400:0 1459044000:3600 1465092000:0 1468116000:3600 1477792800:0 1490493600:3600 1495332000:0 1498960800:3600 1509242400:0 1521943200:3600 1526176800:0 1529200800:3600 1557021600:0 1560045600:3600 1587261600:0 1590890400:3600 1618106400:0 1621130400:3600 1648346400:0 1651975200:3600 1679191200:0 1682215200:3600 1710036000:0 1713060000:3600 1740276000:0 1743904800:3600 1771120800:0 1774144800:3600 1801965600:0 1804989600:3600 1832205600:0 1835834400:3600 1863050400:0 1866074400:3600 1893290400:0 1896919200:3600 1924135200:0 1927159200:3600 1954980000:0 1958004000:3600 1985220000:0 1988848800:3600 2016064800:0 2019088800:3600 2046304800:0 2049933600:3600 2077149600:0 2080778400:3600 2107994400:0 2111018400:3600 2138234400:0 2141863200:3600 2169079200:0 2172103200:3600 2199924000:0 2202948000:3600 2230164000:0 2233792800:3600 2261008800:0 2264032800:3600 2291248800:0 2294877600:3600 2322093600:0 2325722400:3600 2352938400:0 2355962400:3600 2383178400:0 2386807200:3600 2414023200:0 2417047200:3600 2444868000:0 2447892000:3600 2475108000:0 2478736800:3600 2505952800:0 2508976800:3600 2536192800:0 2539821600:3600 2567037600:0 2570666400:3600 2597882400:0 2600906400:3600 2628122400:0 2631751200:3600 2658967200:0 2661991200:3600 2689812000:0 2692836000:3600 2720052000:0 2723680800:3600 2750896800:0 2753920800:3600 2781136800:0 2784765600:3600 2811981600:0 2815610400:3600 2842826400:0 2845850400:3600 2873066400:0 2876695200:3600 2903911200:0 2906935200:3600 2934756000:0 2937780000:3600 2964996000:0 2968624800:3600 2995840800:0 2998864800:3600 3026080800:0 3029709600:3600 3056925600:0 3060554400:3600 3087770400:0 3090794400:3600 3118010400:0 3121639200:3600 3148855200:0 3151879200:3600 3179700000:0 3182724000:3600 3209940000:0 3213568800:3600 3240784800:0 3243808800:3600 3271024800:0 3274653600:3600 3301869600:0 3305498400:3600 3332714400:0 3335738400:3600 3362954400:0 3366583200:3600 3393799200:0 3396823200:3600 3424644000:0 3427668000:3600 3454884000:0 3458512800:3600 3485728800:0 3488752800:3600 3515968800:0 3519597600:3600 3546813600:0 3549837600:3600 3577658400:0 3580682400:3600 3607898400:0 3611527200:3600 3638743200:0 3641767200:3600 3669588000:0 3672612000:3600 3699828000:0 3703456800:3600"),
  ("Africa/Johannesburg",
   "6720 -2458173120:5400 -2109288600:7200 -860976000:10800 -845254800:7200 -829526400:10800 -813805200:7200"),
  ("Africa/Juba",
   "7588 -1230775588:7200 10360800:10800 24786000:7200 41810400:10800 56322000:7200 73432800:10800 87944400:7200 104882400:10800 119480400:7200 136332000:10800 151016400:7200 167781600:10800 182552400:7200 199231200:10800 214174800:7200 230680800:10800 245710800:7200 262735200:10800 277246800:7200 294184800:10800 308782800:7200 325634400:10800 340405200:7200 357084000:10800 371941200:7200 388533600:10800 403477200:7200 419983200:10800 435013200:7200 452037600:10800 466635600:7200 483487200:10800 498171600:7200 947930400:10800 1612126800:7200"),
  ("Africa/Khartoum",
   "7808 -1230775808:7200 10360800:10800 24786000:7200 41810400:10800 56322000:7200 73432800:10800 87944400:7200 104882400:10800 119480400:7200 136332000:10800 151016400:7200 167781600:10800 182552400:7200 199231200:10800 214174800:7200 230680800:10800 245710800:7200 262735200:10800 277246800:7200 294184800:10800 308782800:7200 325634400:10800 340405200:7200 357084000:10800 371941200:7200 388533600:10800 403477200:7200 419983200:10800 435013200:7200 452037600:10800 466635600:7200 483487200:10800 498171600:7200 947930400:10800 1509483600:7200"),
  ("Africa/Lagos",
   "815 -2035584815:0 -1940889600:815 -1767226415:1800 -1588465800:3600"),
  ("Africa/Maputo",
   "7818 -1924999818:7200"),
  ("Africa/Monrovia",
   "-2588 -1604359012:-2670 63593070:0"),
  ("Africa/Nairobi",
   "8836 -1946168836:9000 -1309746600:10800 -1261969200:9000 -1041388200:9900 -865305900:10800"),
  ("Africa/Ndjamena",
   "3612 -1830387612:3600 308703600:7200 321314400:3600"),
  ("Africa/Sao_Tome",
   "1616 -2713912016:-2205 -1830384000:0 1514768400:3600 1546304400:0"),
  ("Africa/Tripoli",
   "3164 -1577926364:3600 -574902000:7200 -568087200:3600 -512175600:7200 -504928800:3600 -449888400:7200 -441856800:3600 -347158800:7200 378684000:3600 386463600:7200 402271200:3600 417999600:7200 433807200:3600 449622000:7200 465429600:3600 481590000:7200 496965600:3600 512953200:7200 528674400:3600 544230000:7200 560037600:3600 575852400:7200 591660000:3600 607388400:7200 623196000:3600 641775600:7200 844034400:3600 860108400:7200 1352505600:3600 1364515200:7200"),
  ("Africa/Tunis",
   "2444 -2797202444:561 -1855958961:3600 -969242400:7200 -950493600:3600 -941940000:7200 -891136800:3600 -877827600:7200 -857257200:3600 -844556400:7200 -842918400:3600 -842223600:7200 -828230400:3600 -812502000:7200 -796269600:3600 -781052400:7200 -766634400:3600 231202800:7200 243903600:3600 262825200:7200 276044400:3600 581122800:7200 591145200:3600 606870000:7200 622594800:3600 641516400:7200 654649200:3600 1114902000:7200 1128038400:3600 1143334800:7200 1162083600:3600 1174784400:7200 1193533200:3600 1206838800:7200 1224982800:3600"),
  ("Africa/Windhoek",
   "4104 -2458170504:5400 -2109288600:7200 -860976000:10800 -845254800:7200 764200800:3600 778640400:7200 796780800:3600 810090000:7200 828835200:3600 841539600:7200 860284800:3600 873594000:7200 891734400:3600 905043600:7200 923184000:3600 936493200:7200 954633600:3600 967942800:7200 986083200:3600 999392400:7200 1018137600:3600 1030842000:7200 1049587200:3600 1062896400:7200 1081036800:3600 1094346000:7200 1112486400:3600 1125795600:7200 1143936000:3600 1157245200:7200 1175385600:3600 1188694800:7200 1207440000:3600 1220749200:7200 1238889600:3600 1252198800:7200 1270339200:3600 1283648400:7200 1301788800:3600 1315098000:7200 1333238400:3600 1346547600:7200 1365292800:3600 1377997200:7200 1396742400:3600 1410051600:7200 1428192000:3600 1441501200:7200 1459641600:3600 1472950800:7200 1491091200:3600 1504400400:7200")]

end Presence.Zone
