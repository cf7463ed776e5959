import Stencil.Text.Property.Spelling.Row

set_option autoImplicit false

/-! The words for emoji. -/

namespace Stencil.Text.Property

/-- Pictures among the older symbols. -/
def plainPictures : List Row := [
  ⟨0x231A, ["watch", "hourglass"]⟩, ⟨0x2328, ["keyboard"]⟩, ⟨0x23CF, ["eject button"]⟩,
  ⟨0x23E9, [
      "fast forward", "rewind", "arrow double up", "arrow double down", "next track button",
      "previous track button", "play or pause button", "alarm clock", "stopwatch", "timer clock",
      "hourglass flowing sand"]⟩,
  ⟨0x23F8, ["pause button", "stop button", "record button"]⟩,
  ⟨0x2600, ["sunny", "cloud", "open umbrella", "snowman with snow", "comet"]⟩, ⟨0x260E, ["phone"]⟩,
  ⟨0x2611, ["ballot box with check"]⟩, ⟨0x2614, ["umbrella", "coffee"]⟩, ⟨0x2618, ["shamrock"]⟩,
  ⟨0x261D, ["point up"]⟩, ⟨0x2620, ["skull and crossbones"]⟩,
  ⟨0x2622, ["radioactive", "biohazard"]⟩, ⟨0x2626, ["orthodox cross"]⟩,
  ⟨0x262A, ["star and crescent"]⟩, ⟨0x262E, ["peace symbol", "yin yang"]⟩,
  ⟨0x2638, ["wheel of dharma", "frowning face", "relaxed"]⟩, ⟨0x2640, ["female sign"]⟩,
  ⟨0x2642, ["male sign"]⟩,
  ⟨0x2648, [
      "aries", "taurus", "gemini", "cancer", "leo", "virgo", "libra", "scorpius", "sagittarius",
      "capricorn", "aquarius", "pisces"]⟩,
  ⟨0x265F, ["chess pawn", "spades"]⟩, ⟨0x2663, ["clubs"]⟩, ⟨0x2665, ["hearts", "diamonds"]⟩,
  ⟨0x2668, ["hotsprings"]⟩, ⟨0x267B, ["recycle"]⟩, ⟨0x267E, ["infinity", "wheelchair"]⟩,
  ⟨0x2692, [
      "hammer and pick", "anchor", "crossed swords", "medical symbol", "balance scale", "alembic"]⟩,
  ⟨0x2699, ["gear"]⟩, ⟨0x269B, ["atom symbol", "fleur de lis"]⟩, ⟨0x26A0, ["warning", "zap"]⟩,
  ⟨0x26AA, ["white circle", "black circle"]⟩, ⟨0x26B0, ["coffin", "funeral urn"]⟩,
  ⟨0x26BD, ["soccer", "baseball"]⟩, ⟨0x26C4, ["snowman", "partly sunny"]⟩,
  ⟨0x26C8, ["cloud with lightning and rain"]⟩, ⟨0x26CE, ["ophiuchus", "pick"]⟩,
  ⟨0x26D1, ["rescue worker helmet"]⟩, ⟨0x26D3, ["chains", "no entry"]⟩,
  ⟨0x26E9, ["shinto shrine", "church"]⟩,
  ⟨0x26F0, ["mountain", "parasol on ground", "fountain", "golf", "ferry", "boat"]⟩,
  ⟨0x26F7, ["skier", "ice skate", "bouncing ball person", "tent"]⟩, ⟨0x26FD, ["fuelpump"]⟩,
  ⟨0x2702, ["scissors"]⟩, ⟨0x2705, ["white check mark"]⟩,
  ⟨0x2708, ["airplane", "envelope", "fist raised", "hand", "v", "writing hand"]⟩,
  ⟨0x270F, ["pencil2"]⟩, ⟨0x2712, ["black nib"]⟩, ⟨0x2714, ["heavy check mark"]⟩,
  ⟨0x2716, ["heavy multiplication x"]⟩, ⟨0x271D, ["latin cross"]⟩, ⟨0x2721, ["star of david"]⟩,
  ⟨0x2728, ["sparkles"]⟩, ⟨0x2733, ["eight spoked asterisk", "eight pointed black star"]⟩,
  ⟨0x2744, ["snowflake"]⟩, ⟨0x2747, ["sparkle"]⟩, ⟨0x274C, ["x"]⟩,
  ⟨0x274E, ["negative squared cross mark"]⟩,
  ⟨0x2753, ["question", "grey question", "grey exclamation"]⟩, ⟨0x2757, ["exclamation"]⟩,
  ⟨0x2763, ["heavy heart exclamation", "heart"]⟩,
  ⟨0x2795, ["heavy plus sign", "heavy minus sign", "heavy division sign"]⟩,
  ⟨0x27A1, ["arrow right"]⟩, ⟨0x27B0, ["curly loop"]⟩, ⟨0x27BF, ["loop"]⟩,
  ⟨0x2934, ["arrow heading up", "arrow heading down"]⟩,
  ⟨0x2B05, ["arrow left", "arrow up", "arrow down"]⟩,
  ⟨0x2B1B, ["black large square", "white large square"]⟩, ⟨0x2B50, ["star"]⟩, ⟨0x2B55, ["o"]⟩,
  ⟨0x1F004, ["mahjong"]⟩, ⟨0x1F0CF, ["black joker"]⟩, ⟨0x1F170, ["a", "b"]⟩,
  ⟨0x1F17E, ["o2", "parking"]⟩, ⟨0x1F18E, ["ab"]⟩,
  ⟨0x1F191, ["cl", "cool", "free", "id", "new", "ng", "ok", "sos", "up", "vs"]⟩,
  ⟨0x1F201, ["koko", "sa"]⟩]

/-- The world, food, play and people. -/
def natureAndPeople : List Row := [
  ⟨0x1F300, [
      "cyclone", "foggy", "closed umbrella", "night with stars", "sunrise over mountains",
      "sunrise", "city sunset", "city sunrise", "rainbow", "bridge at night", "ocean", "volcano",
      "milky way", "earth africa", "earth americas", "earth asia", "globe with meridians",
      "new moon", "waxing crescent moon", "first quarter moon", "moon", "full moon",
      "waning gibbous moon", "last quarter moon", "waning crescent moon", "crescent moon",
      "new moon with face", "first quarter moon with face", "last quarter moon with face",
      "full moon with face", "sun with face", "star2", "stars", "thermometer"]⟩,
  ⟨0x1F324, [
      "sun behind small cloud", "sun behind large cloud", "sun behind rain cloud",
      "cloud with rain", "cloud with snow", "cloud with lightning", "tornado", "fog", "wind face",
      "hotdog", "taco", "burrito", "chestnut", "seedling", "evergreen tree", "deciduous tree",
      "palm tree", "cactus", "hot pepper", "tulip", "cherry blossom", "rose", "hibiscus",
      "sunflower", "blossom", "corn", "ear of rice", "herb", "four leaf clover", "maple leaf",
      "fallen leaf", "leaves", "mushroom", "tomato", "eggplant", "grapes", "melon", "watermelon",
      "tangerine", "lemon", "banana", "pineapple", "apple", "green apple", "pear", "peach",
      "cherries", "strawberry", "hamburger", "pizza", "meat on bone", "poultry leg",
      "rice cracker", "rice ball", "rice", "curry", "ramen", "spaghetti", "bread", "fries",
      "sweet potato", "dango", "oden", "sushi", "fried shrimp", "fish cake", "icecream",
      "shaved ice", "ice cream", "doughnut", "cookie", "chocolate bar", "candy", "lollipop",
      "custard", "honey pot", "cake", "bento", "stew", "fried egg", "fork and knife", "tea",
      "sake", "wine glass", "cocktail", "tropical drink", "beer", "beers", "baby bottle",
      "plate with cutlery", "champagne", "popcorn", "ribbon", "gift", "birthday", "jack o lantern"]⟩,
  ⟨0x1F384, [
      "christmas tree", "santa", "fireworks", "sparkler", "balloon", "tada", "confetti ball",
      "tanabata tree", "crossed flags", "bamboo", "dolls", "flags", "wind chime", "rice scene",
      "school satchel", "mortar board"]⟩,
  ⟨0x1F396, ["medal military", "reminder ribbon"]⟩,
  ⟨0x1F399, ["studio microphone", "level slider", "control knobs"]⟩,
  ⟨0x1F39E, [
      "film strip", "tickets", "carousel horse", "ferris wheel", "roller coaster",
      "fishing pole and fish", "microphone", "movie camera", "cinema", "headphones", "art",
      "tophat", "circus tent", "ticket", "clapper", "performing arts", "video game", "dart",
      "slot machine", "8ball", "game die", "bowling", "flower playing cards", "musical note",
      "notes", "saxophone", "guitar", "musical keyboard", "trumpet", "violin", "musical score",
      "running shirt with sash", "tennis", "ski", "basketball", "checkered flag", "snowboarder",
      "runner", "surfer", "medal sports", "trophy", "horse racing", "football", "rugby football",
      "swimmer", "weight lifting", "golfing", "motorcycle", "racing car", "cricket game",
      "volleyball", "field hockey", "ice hockey", "ping pong", "mountain snow", "camping",
      "beach umbrella", "building construction", "houses", "cityscape", "derelict house",
      "classical building", "desert", "desert island", "national park", "stadium", "house",
      "house with garden", "office", "post office", "european post office", "hospital", "bank",
      "atm", "hotel", "love hotel", "convenience store", "school", "department store", "factory",
      "izakaya lantern", "japanese castle", "european castle"]⟩,
  ⟨0x1F3F3, ["white flag", "black flag", "rosette"]⟩,
  ⟨0x1F3F7, ["label", "badminton", "bow and arrow", "amphora"]⟩,
  ⟨0x1F400, [
      "rat", "mouse2", "ox", "water buffalo", "cow2", "tiger2", "leopard", "rabbit2", "cat2",
      "dragon", "crocodile", "whale2", "snail", "snake", "racehorse", "ram", "goat", "sheep",
      "monkey", "rooster", "chicken", "dog2", "pig2", "boar", "elephant", "octopus", "shell",
      "bug", "ant", "bee", "beetle", "fish", "tropical fish", "blowfish", "turtle",
      "hatching chick", "baby chick", "hatched chick", "bird", "penguin", "koala", "poodle",
      "dromedary camel", "camel", "dolphin", "mouse", "cow", "tiger", "rabbit", "cat",
      "dragon face", "whale", "horse", "monkey face", "dog", "pig", "frog", "hamster", "wolf",
      "bear", "panda face", "pig nose", "feet", "chipmunk", "eyes", "eye", "ear", "nose", "lips",
      "tongue", "point up 2", "point down", "point left", "point right", "fist oncoming", "wave",
      "ok hand", "+1", "-1", "clap", "open hands", "crown", "womans hat", "eyeglasses", "necktie",
      "shirt", "jeans", "dress", "kimono", "bikini", "womans clothes", "purse", "handbag",
      "pouch", "mans shoe", "athletic shoe"]⟩,
  ⟨0x1F460, [
      "high heel", "sandal", "boot", "footprints", "bust in silhouette", "busts in silhouette",
      "boy", "girl", "man", "woman", "family", "couple", "two men holding hands",
      "two women holding hands", "cop", "dancers", "bride with veil", "blond haired person",
      "man with gua pi mao", "man with turban", "older man", "older woman", "baby",
      "construction worker", "princess", "japanese ogre", "japanese goblin", "ghost", "angel",
      "alien", "space invader", "imp", "skull", "information desk person", "guard", "dancer",
      "lipstick", "nail care", "massage", "haircut", "barber", "syringe", "pill", "kiss",
      "love letter", "ring", "gem", "couplekiss", "bouquet", "couple with heart", "wedding",
      "heartbeat", "broken heart", "two hearts", "sparkling heart", "heartpulse", "cupid",
      "blue heart", "green heart", "yellow heart", "purple heart", "gift heart",
      "revolving hearts", "heart decoration"]⟩]

/-- Things. -/
def things : List Row := [
  ⟨0x1F4A0, [
      "diamond shape with a dot inside", "bulb", "anger", "bomb", "zzz", "boom", "sweat drops",
      "droplet", "dash", "hankey", "muscle", "dizzy", "speech balloon", "thought balloon",
      "white flower", "100", "moneybag", "currency exchange", "heavy dollar sign", "credit card",
      "yen", "dollar", "euro", "pound", "money with wings", "chart", "seat", "computer",
      "briefcase", "minidisc", "floppy disk", "cd", "dvd", "file folder", "open file folder",
      "page with curl", "page facing up", "date", "calendar", "card index",
      "chart with upwards trend", "chart with downwards trend", "bar chart", "clipboard",
      "pushpin", "round pushpin", "paperclip", "straight ruler", "triangular ruler",
      "bookmark tabs", "ledger", "notebook", "notebook with decorative cover", "closed book",
      "book", "green book", "blue book", "orange book", "books", "name badge", "scroll", "memo",
      "telephone receiver", "pager", "fax", "satellite", "loudspeaker", "mega", "outbox tray",
      "inbox tray", "package", "email", "incoming envelope", "envelope with arrow",
      "mailbox closed", "mailbox", "mailbox with mail", "mailbox with no mail", "postbox",
      "postal horn", "newspaper", "iphone", "calling", "vibration mode", "mobile phone off",
      "no mobile phones", "signal strength", "camera", "camera flash", "video camera", "tv",
      "radio", "vhs", "film projector"]⟩,
  ⟨0x1F4FF, [
      "prayer beads", "twisted rightwards arrows", "repeat", "repeat one", "arrows clockwise",
      "arrows counterclockwise", "low brightness", "high brightness", "mute", "speaker", "sound",
      "loud sound", "battery", "electric plug", "mag", "mag right", "lock with ink pen",
      "closed lock with key", "key", "lock", "unlock", "bell", "no bell", "bookmark", "link",
      "radio button", "back", "end", "on", "soon", "top", "underage", "keycap ten",
      "capital abcd", "abcd", "1234", "symbols", "abc", "fire", "flashlight", "wrench", "hammer",
      "nut and bolt", "hocho", "gun", "microscope", "telescope", "crystal ball",
      "six pointed star", "beginner", "trident", "black square button", "white square button",
      "red circle", "large blue circle", "large orange diamond", "large blue diamond",
      "small orange diamond", "small blue diamond", "small red triangle",
      "small red triangle down", "arrow up small", "arrow down small"]⟩,
  ⟨0x1F549, ["om", "dove", "kaaba", "mosque", "synagogue", "menorah"]⟩,
  ⟨0x1F550, [
      "clock1", "clock2", "clock3", "clock4", "clock5", "clock6", "clock7", "clock8", "clock9",
      "clock10", "clock11", "clock12", "clock130", "clock230", "clock330", "clock430", "clock530",
      "clock630", "clock730", "clock830", "clock930", "clock1030", "clock1130", "clock1230"]⟩,
  ⟨0x1F56F, ["candle", "mantelpiece clock"]⟩,
  ⟨0x1F573, [
      "hole", "business suit levitating", "detective", "dark sunglasses", "spider", "spider web",
      "joystick", "man dancing"]⟩,
  ⟨0x1F587, ["paperclips"]⟩, ⟨0x1F58A, ["pen", "fountain pen", "paintbrush", "crayon"]⟩,
  ⟨0x1F590, ["raised hand with fingers splayed"]⟩, ⟨0x1F595, ["middle finger", "vulcan salute"]⟩,
  ⟨0x1F5A4, ["black heart", "desktop computer"]⟩, ⟨0x1F5A8, ["printer"]⟩,
  ⟨0x1F5B1, ["computer mouse", "trackball"]⟩, ⟨0x1F5BC, ["framed picture"]⟩,
  ⟨0x1F5C2, ["card index dividers", "card file box", "file cabinet"]⟩,
  ⟨0x1F5D1, ["wastebasket", "spiral notepad", "spiral calendar"]⟩,
  ⟨0x1F5DC, ["clamp", "old key", "newspaper roll"]⟩, ⟨0x1F5E1, ["dagger"]⟩,
  ⟨0x1F5E3, ["speaking head"]⟩, ⟨0x1F5E8, ["left speech bubble"]⟩,
  ⟨0x1F5EF, ["right anger bubble"]⟩, ⟨0x1F5F3, ["ballot box"]⟩,
  ⟨0x1F5FA, ["world map", "mount fuji", "tokyo tower", "statue of liberty", "japan", "moyai"]⟩]

/-- Faces, travel and later additions. -/
def facesAndTravel : List Row := [
  ⟨0x1F600, [
      "grinning", "grin", "joy", "smiley", "smile", "sweat smile", "laughing", "innocent",
      "smiling imp", "wink", "blush", "yum", "relieved", "heart eyes", "sunglasses", "smirk",
      "neutral face", "expressionless", "unamused", "sweat", "pensive", "confused", "confounded",
      "kissing", "kissing heart", "kissing smiling eyes", "kissing closed eyes",
      "stuck out tongue", "stuck out tongue winking eye", "stuck out tongue closed eyes",
      "disappointed", "worried", "angry", "rage", "cry", "persevere", "triumph",
      "disappointed relieved", "frowning", "anguished", "fearful", "weary", "sleepy",
      "tired face", "grimacing", "sob", "open mouth", "hushed", "cold sweat", "scream",
      "astonished", "flushed", "sleeping", "dizzy face", "no mouth", "mask", "smile cat",
      "joy cat", "smiley cat", "heart eyes cat", "smirk cat", "kissing cat", "pouting cat",
      "crying cat face", "scream cat", "slightly frowning face", "slightly smiling face",
      "upside down face", "roll eyes", "no good", "ok woman", "bow", "see no evil",
      "hear no evil", "speak no evil", "raising hand", "raised hands", "frowning person",
      "pouting face", "pray"]⟩,
  ⟨0x1F680, [
      "rocket", "helicopter", "steam locomotive", "railway car", "bullettrain side",
      "bullettrain front", "train2", "metro", "light rail", "station", "tram", "train", "bus",
      "oncoming bus", "trolleybus", "busstop", "minibus", "ambulance", "fire engine",
      "police car", "oncoming police car", "taxi", "oncoming taxi", "car", "oncoming automobile",
      "blue car", "truck", "articulated lorry", "tractor", "monorail", "mountain railway",
      "suspension railway", "mountain cableway", "aerial tramway", "ship", "rowboat", "speedboat",
      "traffic light", "vertical traffic light", "construction", "rotating light",
      "triangular flag on post", "door", "no entry sign", "smoking", "no smoking",
      "put litter in its place", "do not litter", "potable water", "non-potable water", "bike",
      "no bicycles", "bicyclist", "mountain bicyclist", "walking", "no pedestrians",
      "children crossing", "mens", "womens", "restroom", "baby symbol", "toilet", "wc", "shower",
      "bath", "bathtub", "passport control", "customs", "baggage claim", "left luggage"]⟩,
  ⟨0x1F6CB, [
      "couch and lamp", "sleeping bed", "shopping", "bellhop bell", "bed", "place of worship",
      "stop sign", "shopping cart"]⟩,
  ⟨0x1F6E0, [
      "hammer and wrench", "shield", "oil drum", "motorway", "railway track", "motor boat"]⟩,
  ⟨0x1F6E9, ["small airplane"]⟩, ⟨0x1F6EB, ["flight departure", "flight arrival"]⟩,
  ⟨0x1F6F0, ["artificial satellite"]⟩,
  ⟨0x1F6F3, [
      "passenger ship", "kick scooter", "motor scooter", "canoe", "sled", "flying saucer",
      "skateboard"]⟩,
  ⟨0x1F90D, ["white heart", "brown heart"]⟩,
  ⟨0x1F910, [
      "zipper mouth face", "money mouth face", "face with thermometer", "nerd face", "thinking",
      "face with head bandage", "robot", "hugs", "metal", "call me hand", "raised back of hand",
      "fist left", "fist right", "handshake", "crossed fingers", "love you gesture",
      "cowboy hat face", "clown face", "nauseated face", "rofl", "drooling face", "lying face",
      "facepalm", "sneezing face", "raised eyebrow", "star struck", "zany face", "shushing face",
      "cursing face", "hand over mouth", "vomiting face", "exploding head", "pregnant woman",
      "breast feeding", "palms up together", "selfie", "prince", "man in tuxedo", "mrs claus",
      "shrug", "cartwheeling", "juggling person", "fencing"]⟩,
  ⟨0x1F93C, [
      "wrestling", "water polo", "handball person", "diving mask", "wilted flower", "drum",
      "clinking glasses", "tumbler glass", "spoon", "goal net"]⟩,
  ⟨0x1F947, [
      "1st place medal", "2nd place medal", "3rd place medal", "boxing glove",
      "martial arts uniform", "curling stone", "lacrosse", "softball", "flying disc", "croissant",
      "avocado", "cucumber", "bacon", "potato", "carrot", "baguette bread", "green salad",
      "shallow pan of food", "stuffed flatbread", "egg", "milk glass", "peanuts", "kiwi fruit",
      "pancakes", "dumpling", "fortune cookie", "takeout box", "chopsticks", "bowl with spoon",
      "cup with straw", "coconut", "broccoli", "pie", "pretzel", "cut of meat", "sandwich",
      "canned food", "leafy green", "mango", "moon cake", "bagel",
      "smiling face with three hearts"]⟩,
  ⟨0x1F973, ["partying face", "woozy face", "hot face", "cold face"]⟩,
  ⟨0x1F97A, ["pleading face"]⟩,
  ⟨0x1F980, [
      "crab", "lion", "scorpion", "turkey", "unicorn", "eagle", "duck", "bat", "shark", "owl",
      "fox face", "butterfly", "deer", "gorilla", "lizard", "rhinoceros", "shrimp", "squid",
      "giraffe", "zebra", "hedgehog", "sauropod", "t-rex", "cricket", "kangaroo", "llama",
      "peacock", "hippopotamus", "parrot", "raccoon", "lobster", "mosquito", "microbe", "badger",
      "swan"]⟩,
  ⟨0x1F9C0, ["cheese", "cupcake", "salt"]⟩, ⟨0x1F9D0, ["monocle face"]⟩,
  ⟨0x1F9E0, ["brain", "orange heart"]⟩]

end Stencil.Text.Property
